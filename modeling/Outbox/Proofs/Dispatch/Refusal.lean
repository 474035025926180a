import Outbox.Proofs.Standing

/-!
# Refused writes

What a run writes to the store may be refused: that a record has been sent, that its delivery is
forgotten, or that its delivery is remembered. `Surroundings.refusing` refuses a single one of these
writes, changes nothing then, and answers everything else as before.

Of a single record the refused write is the last thing that is asked. What is left of the record
depends on which write it is, and `Standing.Interrupted` lists the three cases.
-/

namespace Outbox

open Calendar

/-- What a run writes to the store about a record. -/
inductive Write
  | markSent
  | clearDelivery
  | saveDelivery
  deriving DecidableEq

/-- What a request writes, and about which record. -/
def Request.write? : Request → Option (Write × Identifier)
  | .markSent event _ => some (.markSent, event)
  | .clearDelivery event => some (.clearDelivery, event)
  | .saveDelivery delivery => some (.saveDelivery, delivery.event)
  | _ => none

/-- A write is about the record that it is about. -/
theorem Request.subject_of_write {request : Request} {write : Write} {event : Identifier}
    (writes : request.write? = some (write, event)) : request.subject? = some event := by
  cases request with
  | markSent subject moment => exact congrArg (·.map Prod.snd) writes
  | clearDelivery subject => exact congrArg (·.map Prod.snd) writes
  | saveDelivery delivery => exact congrArg (·.map Prod.snd) writes
  | _ => cases writes

/-- A write is not one of the loads. -/
theorem Exchange.isLoad_of_write {exchange : Exchange} {write : Write} {event : Identifier}
    (writes : exchange.request.write? = some (write, event)) : exchange.isLoad = false := by
  obtain ⟨request, reply⟩ := exchange
  cases request with
  | loadPending => cases writes
  | loadDeliveries => cases writes
  | _ => rfl

/-- The refusal of a request with an error, if it is the write that is refused. -/
def Request.refusal? (write : Write) (event : Identifier) (error : StoreError) :
    (request : Request) → Option request.Answer
  | .markSent subject _ =>
    if (write, event) = (.markSent, subject) then some (.error error) else none
  | .clearDelivery subject =>
    if (write, event) = (.clearDelivery, subject) then some (.error error) else none
  | .saveDelivery delivery =>
    if (write, event) = (.saveDelivery, delivery.event) then some (.error error) else none
  | _ => none

namespace Surroundings

variable {World : Type} (surroundings : Surroundings World)

/-- The surroundings in which a single write is refused with an error and then changes nothing.
Every other request is answered as before. -/
def refusing (write : Write) (event : Identifier) (error : StoreError) : Surroundings World where
  answer world request :=
    match request.refusal? write event error with
    | some reply => (reply, world)
    | none => surroundings.answer world request
  standing := surroundings.standing
  loaded := surroundings.loaded
  frame world request subject foreign := by
    split
    · rfl
    · exact surroundings.frame world request subject foreign
  delivered := surroundings.delivered
  refused := surroundings.refused
  marked world subject moment answered := by
    dsimp only at answered ⊢
    split at answered
    · next reply refused =>
      rw [Request.refusal?] at refused
      split at refused
      · cases refused
        cases answered
      · cases refused
    · exact surroundings.marked world subject moment answered

variable {write : Write} {event : Identifier} {error : StoreError}

/-- Every request but the refused write is answered as before. -/
theorem refusing_other (world : World) {request : Request}
    (other : request.write? ≠ some (write, event)) :
    (surroundings.refusing write event error).answer world request =
      surroundings.answer world request := by
  have accepted : request.refusal? write event error = none := by
    cases request with
    | markSent subject moment => exact if_neg fun same => other (congrArg some same.symm)
    | clearDelivery subject => exact if_neg fun same => other (congrArg some same.symm)
    | saveDelivery delivery => exact if_neg fun same => other (congrArg some same.symm)
    | _ => rfl
  rw [refusing]
  simp only [accepted]

/-- The refused write fails with the error and changes nothing. -/
theorem refusing_markSent (world : World) (moment : Timestamp) :
    (surroundings.refusing .markSent event error).answer world (.markSent event moment) =
      (.error error, world) := by
  simp [refusing, Request.refusal?]

/-- Where it is refused to forget a delivery the answer is the error, and nothing changes. -/
theorem refusing_clearDelivery (world : World) :
    (surroundings.refusing .clearDelivery event error).answer world (.clearDelivery event) =
      (.error error, world) := by
  simp [refusing, Request.refusal?]

/-- Where it is refused to remember a delivery the answer is the error, and nothing changes. -/
theorem refusing_saveDelivery (world : World) {delivery : Delivery}
    (named : delivery.event = event) :
    (surroundings.refusing .saveDelivery event error).answer world (.saveDelivery delivery) =
      (.error error, world) := by
  simp [refusing, Request.refusal?, named]

/-- A run that makes no request about the record of the refused write takes no notice. -/
theorem refusing_alike (write : Write) (error : StoreError) {run : Run}
    (only : run.Only fun request => request.subject? ≠ some event) (world : World) :
    run.execute (surroundings.refusing write event error).answer world =
        run.execute surroundings.answer world ∧
      run.exchanges (surroundings.refusing write event error).answer world =
        run.exchanges surroundings.answer world := by
  apply only.congr
  intro world request foreign
  apply surroundings.refusing_other
  intro writes
  exact foreign (Request.subject_of_write writes)

end Surroundings

/-! ## The record whose write is refused -/

/-- What is held of a record after one of the writes about it was refused. -/
inductive Standing.Interrupted (before : Standing) (record : EventRecord) (now : Timestamp) :
    Write → Standing → Prop
  /-- Its delivery failed, which could not be remembered. -/
  | unsaved : before.Interrupted record now .saveDelivery before
  /-- It was published, but could not be marked as sent. -/
  | unmarked (envelope : Envelope) : before.Interrupted record now .markSent
      { before with published := before.published ++ [envelope] }
  /-- It was published and marked as sent, but its earlier deliveries could not be forgotten. -/
  | unforgotten (envelope : Envelope) : before.Interrupted record now .clearDelivery
      { before with
        record := some { record with status := .sent, updated := now }
        published := before.published ++ [envelope] }

namespace Run

/-- How a run through one record ends when a write is refused: it is aborted if the store cannot be
reached, and otherwise completes. -/
def stoppedBy (error : StoreError) (report : Report) : TickOutcome :=
  if error.isUnavailable then .aborted report error else .completed report

section

variable {World : Type} (surroundings : Surroundings World) {now : Timestamp}
  {record : EventRecord} {write : Write} {error : StoreError} {world : World} {before : Standing}

/-- After a refused write a run through one record makes no more requests. -/
theorem execute_stopped {answer : World → (request : Request) → request.Answer × World}
    (report refused : Report) (first : Run) (error : StoreError) (world : World) :
    ∃ final, (afterWrite report first (.done (.completed refused)) (.error error)).execute answer
      world = (stoppedBy error final, world) := by
  cases unavailable : error.isUnavailable with
  | true => exact ⟨report, by simp [afterWrite, stoppedBy, unavailable, execute]⟩
  | false => exact ⟨refused, by simp [afterWrite, stoppedBy, unavailable, execute]⟩

/-- Nothing is exchanged behind a refused write at which a run stops. -/
theorem exchanges_stopped {answer : World → (request : Request) → request.Answer × World}
    (report refused : Report) (first : Run) (error : StoreError) (world : World) :
    (afterWrite report first (.done (.completed refused)) (.error error)).exchanges answer world =
      [] := by
  rw [afterWrite]
  split <;> rfl

/-- After an acknowledged delivery the refused write is one of the two that follow, and what is left
is what the requests before it did. -/
theorem acknowledged_interrupted {previous : Option Delivery} {report : Report}
    {envelope : Envelope} (stored : before.record = some record)
    (delivered : surroundings.standing world record.id =
      { before with published := before.published ++ [envelope] })
    (made : ∃ exchange ∈ (acknowledged now record previous report
      (.done <| .completed ·)).exchanges (surroundings.refusing write record.id error).answer world,
        exchange.request.write? = some (write, record.id)) :
    ∃ final after, (acknowledged now record previous report (.done <| .completed ·)).execute
        (surroundings.refusing write record.id error).answer world =
          (stoppedBy error final, after) ∧
      before.Interrupted record now write (surroundings.standing after record.id) := by
  obtain ⟨exchange, member, writes⟩ := made
  cases write with
  | saveDelivery =>
    have only : (acknowledged now record previous report (.done <| .completed ·)).Only
        fun request => request.write? ≠ some (.saveDelivery, record.id) :=
      only_acknowledged nofun nofun previous report fun _ => trivial
    exact absurd writes (only.request world exchange member)
  | markSent =>
    obtain ⟨final, stopped⟩ := execute_stopped report { report with failed := report.failed + 1 }
      (if previous.isSome then _ else _) error world
    exact ⟨final, world,
      (execute_answered (surroundings.refusing_markSent world now) _).trans stopped,
      delivered ▸ .unmarked envelope⟩
  | clearDelivery =>
    have marks : (surroundings.refusing .clearDelivery record.id error).answer world
        (.markSent record.id now) = surroundings.answer world (.markSent record.id now) :=
      surroundings.refusing_other world nofun
    have sent := surroundings.marked world record.id now
    generalize surroundings.answer world (.markSent record.id now) = marked at marks sent
    obtain ⟨reply, later⟩ := marked
    rcases (mem_exchanges_answered marks).mp member with rfl | member
    · cases writes
    · cases reply with
      | error refusal =>
        -- the record was not marked, so nothing more was asked
        rw [exchanges_stopped] at member
        cases member
      | ok _ =>
        cases previous with
        | none => cases member
        | some delivery =>
          obtain ⟨final, stopped⟩ := execute_stopped { report with sent := report.sent + 1 }
            { report with sent := report.sent + 1 }
            (.done (.completed { report with sent := report.sent + 1 })) error later
          refine ⟨final, later, (execute_answered marks _).trans
            ((execute_answered (surroundings.refusing_clearDelivery later) _).trans stopped), ?_⟩
          rw [sent rfl, delivered, stored]
          exact .unforgotten envelope

/-- After a failed delivery the refused write is the one that remembers it. It is the only write
that the run makes there, and the record keeps its standing. -/
theorem refused_interrupted {policy : RetryPolicy} {previous : Option Delivery}
    {failure : DispatchError} {report : Report}
    (unchanged : surroundings.standing world record.id = before)
    (made : ∃ exchange ∈ (refused policy now record previous failure report
      (.done <| .completed ·)).exchanges (surroundings.refusing write record.id error).answer world,
        exchange.request.write? = some (write, record.id)) :
    ∃ final after, (refused policy now record previous failure report
      (.done <| .completed ·)).execute (surroundings.refusing write record.id error).answer world =
        (stoppedBy error final, after) ∧
      before.Interrupted record now write (surroundings.standing after record.id) := by
  obtain ⟨exchange, member, writes⟩ := made
  have only : (refused policy now record previous failure report (.done <| .completed ·)).Only
      fun request => request.write? = some (.saveDelivery, record.id) :=
    only_refused (fun delivery named => named ▸ rfl) policy now previous failure report
      fun _ => trivial
  have saves := only.request world exchange member
  obtain rfl : write = .saveDelivery :=
    congrArg Prod.fst (Option.some.inj (writes.symm.trans saves))
  cases remembered : policy.recordFailure? previous record.id failure.message now with
  | none =>
    rw [refused, remembered] at member
    cases member
  | some delivery =>
    have named : delivery.event = record.id := RetryPolicy.event_of_recordFailure? remembered
    rw [refused, remembered]
    obtain ⟨final, stopped⟩ := execute_stopped { report with
      failed := report.failed + 1
      parked := report.parked + if delivery.parked then 1 else 0 } _ _ error world
    exact ⟨final, world,
      (execute_answered (surroundings.refusing_saveDelivery world named) _).trans stopped,
      unchanged ▸ .unsaved⟩

/-- When a write about a single record is refused, the run through it stops there. The record is
left as it was right before that write. -/
theorem single_interrupted {policy : RetryPolicy} {deliveries : Table Delivery.event}
    {report : Report} (stored : (surroundings.standing world record.id).record = some record)
    (made : ∃ exchange ∈ (through policy now [record] deliveries report).exchanges
      (surroundings.refusing write record.id error).answer world,
        exchange.request.write? = some (write, record.id)) :
    ∃ final after, (through policy now [record] deliveries report).execute
        (surroundings.refusing write record.id error).answer world =
          (stoppedBy error final, after) ∧
      (surroundings.standing world record.id).Interrupted record now write
        (surroundings.standing after record.id) := by
  obtain ⟨exchange, member, writes⟩ := made
  rw [through] at member ⊢
  by_cases waits : (deliveries.find? record.id).any (fun delivery => !delivery.isDue now) = true
  · rw [if_pos waits] at member
    cases member
  · rw [if_neg waits] at member ⊢
    have delivers : (surroundings.refusing write record.id error).answer world (.deliver record) =
        surroundings.answer world (.deliver record) :=
      surroundings.refusing_other world (Option.some_ne_none _).symm
    have published := surroundings.delivered world record
    have kept := surroundings.refused world record
    generalize surroundings.answer world (.deliver record) = tried at delivers published kept
    obtain ⟨reply, later⟩ := tried
    rcases (mem_exchanges_answered delivers).mp member with rfl | member
    · cases writes
    · cases reply with
      | ok _ =>
        obtain ⟨envelope, published⟩ := published rfl
        obtain ⟨final, after, executed, interrupted⟩ :=
          acknowledged_interrupted surroundings stored published ⟨exchange, member, writes⟩
        exact ⟨final, after, (execute_answered delivers _).trans executed, interrupted⟩
      | error failure =>
        obtain ⟨final, after, executed, interrupted⟩ :=
          refused_interrupted surroundings (kept failure rfl) ⟨exchange, member, writes⟩
        exact ⟨final, after, (execute_answered delivers _).trans executed, interrupted⟩

end

end Run

end Outbox
