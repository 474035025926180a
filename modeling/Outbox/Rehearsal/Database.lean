import Outbox.Database.Site
import Outbox.Rehearsal.Step

/-!
# Rehearsals with a database

An outbox whose store is a database that replies from a list. The node always leads, and there is
at most one open unit of work.
-/

namespace Outbox.Rehearsal

open Calendar

/-- An outbox with a database in the middle of a rehearsal. -/
structure DatabaseStage where
  site : Database.Site
  sender : Sender
  policy : RetryPolicy
  /-- Whether there is an open unit of work. -/
  isOpen : Bool
  cache : Option ReferenceCache
  /-- The number of records for which a new identifier was used. -/
  made : Nat

namespace DatabaseStage

/-- The stage on which nothing has happened yet. -/
def fresh (sender : Sender) (policy : RetryPolicy) : DatabaseStage :=
  ⟨⟨.empty, .empty⟩, sender, policy, false, none, 0⟩

/-- The statements since the last replies were given. -/
def asked (stage : DatabaseStage) : List Database.Statement := stage.site.database.asked

/-- Takes up another database. -/
def withDatabase (stage : DatabaseStage) (database : Database.Script) : DatabaseStage :=
  { stage with site := { stage.site with database } }

/-- Gives the database its replies, and nothing has been asked yet. -/
def expecting (stage : DatabaseStage) (replies : List Database.Reply)
    (boundary : Option Database.Failure) : DatabaseStage :=
  stage.withDatabase { stage.site.database with replies, boundary, asked := [] }

/-- The stage whose database is closed. -/
def closed (stage : DatabaseStage) : DatabaseStage :=
  stage.withDatabase { stage.site.database with isClosed := true }

/-- How the stage sends. -/
def sending (stage : DatabaseStage) : Sending := ⟨stage.sender, fun _ => none, .ofSeconds 10⟩

/-- Holds a conversation with the database. -/
def hold {Value : Type} (stage : DatabaseStage) (conversation : Database.Conversation Value) :
    Value × DatabaseStage :=
  let (value, site) := stage.site.hold conversation
  (value, { stage with site })

/-- A step in the open unit of work. -/
def inWork (stage : DatabaseStage) (use : Answer × DatabaseStage) : Answer × DatabaseStage :=
  if stage.isOpen then use else (.absent, stage)

/-- Ends the open unit of work. -/
def finish (stage : DatabaseStage) (keep : Bool) : Answer × DatabaseStage :=
  let (outcome, next) := stage.hold (Database.finishWork keep)
  stage.inWork (.finished outcome, { next with isOpen := false })

/-- Carries out a step. -/
def perform (supply : Supply) (stage : DatabaseStage) : Step → Answer × DatabaseStage
  | .call call =>
    let (outcome, stage) := stage.hold (Database.call call).run
    (.called call outcome, stage)
  | .begin _ =>
    let (outcome, stage) := stage.hold Database.beginWork.run
    (.operated outcome, { stage with isOpen := outcome.isOk })
  | .insert _ record =>
    let (outcome, next) := stage.hold (Database.insert record).run
    stage.inWork (.inserted (outcome.map fun () => record.id), next)
  | .enqueue _ request =>
    let (outcome, next) := stage.hold
      (Database.enqueue stage.sender.registry request (supply.identifier stage.made) supply.now)
    stage.inWork (.enqueued outcome, { next with made := stage.made + next.asked.length })
  | .commit _ => stage.finish true
  | .rollback _ => stage.finish false
  | .failFor event =>
    (.done, { stage with site := { stage.site with broker := stage.site.broker.failFor event } })
  | .published => (.published stage.site.broker.published, stage)
  | .dispatch now =>
    let (outcome, site) := stage.site.dispatch stage.sending stage.policy true now
    (.dispatched outcome, { stage with site })
  | .retain _ now =>
    let (outcome, site) := stage.site.retain true Retention.defaultWindow now
    (.retained outcome Retention.defaultWindow, { stage with site })
  | .ensureSchema =>
    let (outcome, stage) := stage.hold Database.ensureSchema.run
    (.operated outcome, stage)
  | .loadCategories =>
    let (answer, stage) := stage.hold Database.categories
    (.loaded answer, { stage with cache := ((ReferenceCache.load answer).toOption).or stage.cache })
  | .refreshCategories =>
    match stage.cache with
    | none => (.absent, stage)
    | some cache =>
      let (answer, stage) := stage.hold Database.categories
      let (outcome, cache) := cache.refresh answer
      (.refreshed outcome, { stage with cache := some cache })
  | .close => (.done, stage.closed)
  | _ => (.refused, stage)

end DatabaseStage

end Outbox.Rehearsal
