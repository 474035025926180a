import Outbox.Rehearsal.Step

/-!
# Rehearsals in memory

An outbox whose store and broker are in memory, with units of work under names. Dispatch and
retention runs reach the store through the planned failures; every other step uses it directly.
-/

namespace Outbox.Rehearsal

open Calendar

/-- An outbox in memory in the middle of a rehearsal. -/
structure MemoryStage where
  site : Site
  isLeader : Bool
  /-- Whether the node leads whatever it is told. -/
  alwaysLeads : Bool
  sender : Sender
  cache : ReferenceCache
  patience : Duration
  policy : RetryPolicy
  /-- The open units of work by their names. -/
  works : List (String × UnitOfWork)
  /-- The number of records made so far. -/
  made : Nat

namespace MemoryStage

/-- Whether the node leads. -/
def leads (stage : MemoryStage) : Bool := stage.alwaysLeads || stage.isLeader

/-- How the stage sends. -/
def sending (stage : MemoryStage) : Sending :=
  ⟨stage.sender, stage.cache.find?, stage.patience⟩

/-- Puts a unit of work under a name, or none any more. -/
def setWork (stage : MemoryStage) (name : String) (work : Option UnitOfWork) : MemoryStage :=
  { stage with
    works := (work.map fun work => (name, work)).toList ++
      stage.works.filter fun entry => entry.1 ≠ name }

/-- Takes up another store. -/
def withStore (stage : MemoryStage) (store : MemoryStore) : MemoryStage :=
  { stage with site := { stage.site with store } }

/-- Takes up another broker. -/
def withBroker (stage : MemoryStage) (broker : MemoryBroker) : MemoryStage :=
  { stage with site := { stage.site with broker } }

/-- A step in a unit of work, which has to be open. -/
def inWork (stage : MemoryStage) (name : String) (use : UnitOfWork → Answer × MemoryStage) :
    Answer × MemoryStage :=
  match lookUp? name stage.works with
  | none => (.absent, stage)
  | some work => use work

/-- Carries out a step. -/
def perform (supply : Supply) (stage : MemoryStage) : Step → Answer × MemoryStage
  | .call call =>
    let (outcome, store) := stage.site.store.call call
    (.called call outcome, stage.withStore store)
  | .begin name => (.done, stage.setWork name (some .begin))
  | .insert name record => stage.inWork name fun work =>
    (.inserted (.ok record.id), stage.setWork name (some (work.insert record)))
  | .staged name => stage.inWork name fun work => (.staged work.staged, stage)
  | .commit name => stage.inWork name fun work =>
    let (outcome, store) := stage.site.store.changed (work.commit stage.site.store)
    (.committed outcome, (stage.setWork name none).withStore store)
  | .rollback name => stage.inWork name fun _ => (.done, stage.setWork name none)
  | .enqueue name request => stage.inWork name fun work =>
    match work.enqueue stage.sender.registry request (supply.identifier stage.made) supply.now with
    | .error error => (.enqueued (.error error), stage)
    | .ok (record, work) =>
      (.enqueued (.ok record), { stage.setWork name (some work) with made := stage.made + 1 })
  | .look event => (.found (stage.site.store.records.find? event), stage)
  | .size => (.size stage.site.store.records.size, stage)
  | .age now =>
    let outcome := stage.site.store.statistics.map fun statistics =>
      (statistics, statistics.oldestPendingAge now)
    (.aged outcome, stage)
  | .setAvailable available => (.done, stage.withStore { stage.site.store with available })
  | .planFault operation plan =>
    let faults := stage.site.faults.setPlan operation plan
    (.done, { stage with site := { stage.site with faults } })
  | .callCounts =>
    let counts := StoreOperation.all.map fun operation =>
      (operation, stage.site.faults.calls operation)
    (.callCounts (counts.filter fun entry => 0 < entry.2), stage)
  | .lead isLeader => (.leads { stage with isLeader }.leads, { stage with isLeader })
  | .failFor event => (.done, stage.withBroker (stage.site.broker.failFor event))
  | .recover event => (.done, stage.withBroker (stage.site.broker.recover event))
  | .setLatency latency => (.done, stage.withBroker { stage.site.broker with latency })
  | .setOutage outage => (.done, { stage with site := { stage.site with outage } })
  | .published => (.published stage.site.broker.published, stage)
  | .countFor event => (.counted (stage.site.broker.countFor event), stage)
  | .push envelope =>
    match stage.site.push stage.patience envelope with
    | .ok site => (.done, { stage with site })
    | .error error => (.pushed (.error error), stage)
  | .send envelope =>
    match stage.site.send envelope with
    | .ok site => (.done, { stage with site })
    | .error error => (.sent (.error error), stage)
  | .setup => (.setup stage.policy stage.sender.producer, stage)
  | .dispatch now =>
    let (outcome, site) := stage.site.dispatch stage.sending stage.policy stage.leads now
    (.dispatched outcome, { stage with site })
  | .retain window now =>
    let window := window.getD Retention.defaultWindow
    if Retention.longestWindow < window.natAbs then (.retained .crashed window, stage)
    else
      let (outcome, site) := stage.site.retain stage.leads window now
      (.retained outcome window, { stage with site })
  | .refresh answer =>
    let (outcome, cache) := stage.cache.refresh answer
    (.refreshed outcome, { stage with cache })
  | _ => (.refused, stage)

end MemoryStage

end Outbox.Rehearsal
