import Outbox.Dispatch.Run
import Outbox.Proofs.Order

/-!
# The order of a run's requests

A dispatch run is a tree of requests, so what it may ask is a property of the tree and does not
depend on who answers. `Run.Orderly` carries along which records a run has loaded and which of them
the broker has acknowledged so far. An orderly run delivers only what it has loaded, and marks a
record as sent only after its delivery was acknowledged.

Every run that a dispatcher can begin is orderly, for all answers to all of its requests. Nothing is
assumed about the store or the broker: they may fail, answer with anything, and change in between.
-/

namespace Outbox

open Calendar

namespace Request

/-- The records that a run knows of through an answer. -/
def loads : (request : Request) → request.Answer → List EventRecord
  | .loadPending, .ok records => records
  | _, _ => []

/-- The record whose delivery an answer acknowledges, if it does. -/
def acknowledges : (request : Request) → request.Answer → List EventRecord
  | .deliver record, .ok () => [record]
  | _, _ => []

/-- Whether a request is one that a run may make with what it has loaded and what was
acknowledged. -/
def Grounded (loaded acknowledged : List EventRecord) : Request → Prop
  | .deliver record => record ∈ loaded
  | .markSent event _ => ∃ record ∈ acknowledged, record.id = event
  | _ => True

end Request

namespace Run

/-- Every request of a run is grounded in the answers before it, whatever these are. -/
def Orderly : Run → List EventRecord → List EventRecord → Prop
  | .done _, _, _ => True
  | .ask request resume, loaded, acknowledged =>
    request.Grounded loaded acknowledged ∧ ∀ answer, (resume answer).Orderly
      (loaded ++ request.loads answer) (acknowledged ++ request.acknowledges answer)

/-- An orderly run stays orderly with the answer to its first request. -/
theorem orderly_resume {request : Request} {resume : request.Answer → Run}
    {loaded acknowledged : List EventRecord}
    (orderly : (ask request resume).Orderly loaded acknowledged) (answer : request.Answer) :
    (resume answer).Orderly (loaded ++ request.loads answer)
      (acknowledged ++ request.acknowledges answer) :=
  orderly.2 answer

/-- After a write a run either goes on in one of two ways or ends, so it is orderly when both ways
are. -/
theorem orderly_afterWrite (report : Report) (next onRefused : Run)
    (loaded acknowledged : List EventRecord) (nextOrderly : next.Orderly loaded acknowledged)
    (refusedOrderly : onRefused.Orderly loaded acknowledged) (answer : Except StoreError Unit) :
    (afterWrite report next onRefused answer).Orderly loaded acknowledged := by
  cases answer with
  | ok _ => exact nextOrderly
  | error error =>
    cases unavailable : error.isUnavailable with
    | true => simp [afterWrite, unavailable, Orderly]
    | false => simpa [afterWrite, unavailable] using refusedOrderly

/-- What follows an acknowledged delivery is orderly: the record that it marks as sent is the one
that was acknowledged. -/
theorem orderly_acknowledged (now : Timestamp) (record : EventRecord)
    (previous : Option Delivery) (report : Report) (next : Report → Run)
    (loaded acknowledged : List EventRecord) (member : record ∈ acknowledged)
    (nextOrderly : ∀ report, (next report).Orderly loaded acknowledged) :
    (Run.acknowledged now record previous report next).Orderly loaded acknowledged := by
  refine ⟨⟨record, member, rfl⟩, ?_⟩
  intro answer
  change (afterWrite report _ _ answer).Orderly (loaded ++ []) (acknowledged ++ [])
  rw [List.append_nil, List.append_nil]
  apply orderly_afterWrite
  · cases previous with
    | none => exact nextOrderly _
    | some delivery =>
      refine ⟨trivial, ?_⟩
      intro cleared
      change (afterWrite _ _ _ cleared).Orderly (loaded ++ []) (acknowledged ++ [])
      rw [List.append_nil, List.append_nil]
      exact orderly_afterWrite _ _ _ _ _ (nextOrderly _) (nextOrderly _) cleared
  · exact nextOrderly _

/-- What follows a failed delivery is orderly: it only remembers the failure. -/
theorem orderly_refused (policy : RetryPolicy) (now : Timestamp) (record : EventRecord)
    (previous : Option Delivery) (error : DispatchError) (report : Report) (next : Report → Run)
    (loaded acknowledged : List EventRecord)
    (nextOrderly : ∀ report, (next report).Orderly loaded acknowledged) :
    (Run.refused policy now record previous error report next).Orderly loaded acknowledged := by
  rw [Run.refused]
  cases policy.recordFailure? previous record.id error.message now with
  | none => trivial
  | some delivery =>
    refine ⟨trivial, ?_⟩
    intro answer
    change (afterWrite _ _ _ answer).Orderly (loaded ++ []) (acknowledged ++ [])
    rw [List.append_nil, List.append_nil]
    exact orderly_afterWrite _ _ _ _ _ (nextOrderly _) (nextOrderly _) answer

/-- The records of a run are treated in an orderly way as long as all of them have been loaded.

Induct over the records that are left. Deferring a record asks nothing. A delivery adds to what was
acknowledged, so the statement is about every list of acknowledged records. -/
theorem orderly_through (policy : RetryPolicy) (now : Timestamp) (records : List EventRecord)
    (deliveries : Table Delivery.event) (report : Report)
    (loaded acknowledged : List EventRecord) (covered : ∀ record ∈ records, record ∈ loaded) :
    (through policy now records deliveries report).Orderly loaded acknowledged := by
  induction records generalizing deliveries report acknowledged with
  | nil => trivial
  | cons record rest inductionHypothesis =>
    have restCovered : ∀ record ∈ rest, record ∈ loaded := by
      intro other member
      exact covered other (List.mem_cons_of_mem record member)
    rw [through]
    split
    · exact inductionHypothesis _ _ _ restCovered
    · refine ⟨covered record List.mem_cons_self, ?_⟩
      intro answer
      cases answer with
      | ok _ =>
        change (Run.acknowledged _ _ _ _ _).Orderly (loaded ++ []) (acknowledged ++ [record])
        rw [List.append_nil]
        apply orderly_acknowledged
        · exact List.mem_append_right acknowledged List.mem_cons_self
        · intro next
          exact inductionHypothesis _ _ _ restCovered
      | error error =>
        change (Run.refused _ _ _ _ _ _ _).Orderly (loaded ++ []) (acknowledged ++ [])
        rw [List.append_nil, List.append_nil]
        apply orderly_refused
        intro next
        exact inductionHypothesis _ _ _ restCovered

/-- Every run that a dispatcher begins is orderly, as it has loaded nothing and nothing has been
acknowledged yet. -/
theorem orderly_tick (policy : RetryPolicy) (isLeader : Bool) (now : Timestamp) :
    (tick policy isLeader now).Orderly [] [] := by
  cases isLeader with
  | false => trivial
  | true =>
    refine ⟨trivial, ?_⟩
    intro pending
    cases pending with
    | error error => trivial
    | ok pending =>
      refine ⟨trivial, ?_⟩
      intro deliveries
      cases deliveries with
      | error error => trivial
      | ok deliveries =>
        apply orderly_through
        intro record member
        have loaded : record ∈ pending := (MemoryStore.mem_inOrder pending record).mp member
        simpa [Request.loads] using loaded

end Run

end Outbox
