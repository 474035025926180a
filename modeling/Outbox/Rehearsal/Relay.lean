import Outbox.Rehearsal.Step
import Outbox.Relay.Operators

/-!
# Rehearsals at a relay

A running relay, to which operators talk. Every step reaches the store through the planned
failures.
-/

namespace Outbox.Rehearsal

open Calendar

/-- A relay in the middle of a rehearsal. -/
structure RelayStage where
  relay : Relay
  /-- Whether the store can be made to fail. -/
  canFail : Bool

namespace RelayStage

/-- Takes up another relay. -/
def withRelay (stage : RelayStage) (relay : Relay) : RelayStage := { stage with relay }

/-- Changes the site, when it can be made to fail. -/
def upset (stage : RelayStage) (change : Site → Site) : Answer × RelayStage :=
  if stage.canFail then
    (.done, stage.withRelay { stage.relay with site := change stage.relay.site })
  else (.done, stage)

/-- Carries out a step at a moment. -/
def perform (clock : Timestamp) (stage : RelayStage) : Step → Answer × RelayStage
  | .call call =>
    let (outcome, site) := stage.relay.site.call call
    (.called call outcome, stage.withRelay { stage.relay with site })
  | .operator method address =>
    let (response, relay) := stage.relay.handle method address clock
    (.responded response, stage.withRelay relay)
  | .dispatch now =>
    let (outcome, relay) := stage.relay.dispatch now
    (.dispatched outcome, stage.withRelay relay)
  | .retain _ now =>
    let (outcome, relay) := stage.relay.retain now
    (.retained outcome relay.config.retentionWindow, stage.withRelay relay)
  | .lead isLeader => (.leads isLeader, stage.withRelay { stage.relay with isLeader })
  | .setAvailable available =>
    stage.upset fun site => { site with store := { site.store with available } }
  | .planFault operation plan =>
    stage.upset fun site => { site with faults := site.faults.setPlan operation plan }
  | .loops millis => (.jobs Relay.loopNames, stage.withRelay (stage.relay.runLoops millis clock))
  | _ => (.refused, stage)

end RelayStage

end Outbox.Rehearsal
