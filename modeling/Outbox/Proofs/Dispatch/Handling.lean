import Outbox.Proofs.Dispatch.Refusal

/-!
# What a run does with one record

A run through a single record comes to one of a few ends, each after its own requests. `Run.Handled`
lists them with what was exchanged and the worlds in between, so that a statement about a record of
a run needs one case for each of these ends and does not have to follow the run again.
-/

namespace Outbox

open Calendar

namespace Run

/-- How a run through one record ends with its last write. -/
def endedBy (report : Report) : Except StoreError Unit → TickOutcome
  | .ok _ => .completed report
  | .error error => stoppedBy error report

section

variable {World : Type} (answer : World → (request : Request) → request.Answer × World)
  (policy : RetryPolicy) (now : Timestamp)

/-- What is exchanged about one record, from a world in which a run comes to it with a report and
with what it has loaded of the record's deliveries, how the run through this record ends, and in
which world. -/
inductive Handled (record : EventRecord) (previous : Option Delivery) (report : Report)
    (world : World) : List Exchange → TickOutcome × World → Prop
  /-- It waits for its next attempt. -/
  | deferred (waits : previous.any (fun delivery => !delivery.isDue now) = true) :
      Handled record previous report world []
        (.completed { report with deferred := report.deferred + 1 }, world)
  /-- It is sent, and there are no earlier attempts to be forgotten. -/
  | sent (fresh : previous = none) {delivered after : World}
      (delivers : answer world (.deliver record) = (.ok (), delivered))
      (marks : answer delivered (.markSent record.id now) = (.ok (), after)) :
      Handled record previous report world
        [⟨.deliver record, .ok ()⟩, ⟨.markSent record.id now, .ok ()⟩]
        (.completed { report with sent := report.sent + 1 }, after)
  /-- It is sent after earlier attempts, which are to be forgotten. -/
  | sentAgain (known : previous.isSome = true) {delivered marked after : World}
      {reply : Except StoreError Unit}
      (delivers : answer world (.deliver record) = (.ok (), delivered))
      (marks : answer delivered (.markSent record.id now) = (.ok (), marked))
      (clears : answer marked (.clearDelivery record.id) = (reply, after)) :
      Handled record previous report world
        [⟨.deliver record, .ok ()⟩, ⟨.markSent record.id now, .ok ()⟩,
          ⟨.clearDelivery record.id, reply⟩]
        (endedBy { report with sent := report.sent + 1 } reply, after)
  /-- It is delivered and cannot be marked as sent. -/
  | unmarked {delivered after : World} {error : StoreError}
      (delivers : answer world (.deliver record) = (.ok (), delivered))
      (refuses : answer delivered (.markSent record.id now) = (.error error, after)) :
      Handled record previous report world
        [⟨.deliver record, .ok ()⟩, ⟨.markSent record.id now, .error error⟩]
        (if error.isUnavailable then .aborted report error
          else .completed { report with failed := report.failed + 1 }, after)
  /-- Its delivery fails, which is to be remembered. -/
  | failed (due : previous.any (fun delivery => !delivery.isDue now) = false)
      {delivered after : World} {failure : DispatchError} {delivery : Delivery}
      {reply : Except StoreError Unit}
      (fails : answer world (.deliver record) = (.error failure, delivered))
      (remembered : policy.recordFailure? previous record.id failure.message now = some delivery)
      (saves : answer delivered (.saveDelivery delivery) = (reply, after)) :
      Handled record previous report world
        [⟨.deliver record, .error failure⟩, ⟨.saveDelivery delivery, reply⟩]
        (endedBy { report with
          failed := report.failed + 1
          parked := report.parked + if delivery.parked then 1 else 0 } reply, after)
  /-- Its delivery fails, and the next attempt would lie beyond the calendar. -/
  | crashed {delivered : World} {failure : DispatchError}
      (fails : answer world (.deliver record) = (.error failure, delivered))
      (beyond : policy.recordFailure? previous record.id failure.message now = none) :
      Handled record previous report world [⟨.deliver record, .error failure⟩] (.crashed, delivered)

end

section

variable {World : Type} {answer : World → (request : Request) → request.Answer × World}
  {policy : RetryPolicy} {now : Timestamp} {record : EventRecord} {report : Report} {world : World}

variable (answer) in
/-- What is exchanged when a run is carried out, and how and where it ends. -/
structure CarriedOut (run : Run) (world : World) (exchanges : List Exchange)
    (result : TickOutcome × World) : Prop where
  exchanged : run.exchanges answer world = exchanges
  executed : run.execute answer world = result

/-- A request and its answer come before what is carried out with the answer. -/
theorem CarriedOut.asked {request : Request} {resume : request.Answer → Run} {later : World}
    {reply : request.Answer} {exchanges : List Exchange} {result : TickOutcome × World}
    (answered : answer world request = (reply, later))
    (rest : CarriedOut answer (resume reply) later exchanges result) :
    CarriedOut answer (ask request resume) world (⟨request, reply⟩ :: exchanges) result where
  exchanged := by rw [exchanges_answered answered, rest.exchanged]
  executed := (execute_answered answered resume).trans rest.executed

/-- After the last write about a record nothing more is exchanged. -/
theorem carriedOut_lastWrite (final : Report) (reply : Except StoreError Unit) (after : World) :
    CarriedOut answer (afterWrite final (.done (.completed final)) (.done (.completed final)) reply)
      after [] (endedBy final reply, after) := by
  cases reply with
  | ok _ => exact ⟨rfl, rfl⟩
  | error error =>
    rw [afterWrite, endedBy, stoppedBy]
    split
    · exact ⟨rfl, rfl⟩
    · exact ⟨rfl, rfl⟩

/-- What becomes of a record whose delivery was acknowledged. It is marked as sent, and then
whatever was remembered of its deliveries is cleared, unless the mark is refused. -/
theorem handled_acknowledged {previous : Option Delivery} {delivered : World}
    (delivers : answer world (.deliver record) = (.ok (), delivered)) :
    ∃ exchanges result,
      CarriedOut answer (acknowledged now record previous report (.done <| .completed ·)) delivered
        exchanges result ∧
      Handled answer policy now record previous report world
        (⟨.deliver record, .ok ()⟩ :: exchanges) result := by
  generalize marks : answer delivered (.markSent record.id now) = answered
  obtain ⟨reply, marked⟩ := answered
  cases reply with
  | error error =>
    refine ⟨_, _, .asked marks ?_, .unmarked delivers marks⟩
    rw [afterWrite]
    split
    · exact ⟨rfl, rfl⟩
    · exact ⟨rfl, rfl⟩
  | ok _ =>
    cases previous with
    | none => exact ⟨_, _, .asked marks ⟨rfl, rfl⟩, .sent rfl delivers marks⟩
    | some delivery =>
      generalize clears : answer marked (.clearDelivery record.id) = cleared
      obtain ⟨reply, after⟩ := cleared
      exact ⟨_, _, .asked marks (.asked clears (carriedOut_lastWrite _ reply after)),
        .sentAgain rfl delivers marks clears⟩

/-- What becomes of a record whose delivery failed. The failure is remembered, unless the time of
the next attempt would lie beyond the calendar. -/
theorem handled_refused {previous : Option Delivery} {delivered : World} {failure : DispatchError}
    (due : previous.any (fun delivery => !delivery.isDue now) = false)
    (fails : answer world (.deliver record) = (.error failure, delivered)) :
    ∃ exchanges result,
      CarriedOut answer (refused policy now record previous failure report (.done <| .completed ·))
        delivered exchanges result ∧
      Handled answer policy now record previous report world
        (⟨.deliver record, .error failure⟩ :: exchanges) result := by
  rw [refused]
  cases remembered : policy.recordFailure? previous record.id failure.message now with
  | none => exact ⟨_, _, ⟨rfl, rfl⟩, .crashed fails remembered⟩
  | some delivery =>
    generalize saves : answer delivered (.saveDelivery delivery) = saved
    obtain ⟨reply, after⟩ := saved
    exact ⟨_, _, .asked saves (carriedOut_lastWrite _ reply after),
      .failed due fails remembered saves⟩

variable (answer policy now record report world) in
/-- A run through a single record comes to one of these ends. The cases are those of the run itself:
whether the record waits, and how the broker answers if it does not. -/
theorem handled_single (deliveries : Table Delivery.event) :
    Handled answer policy now record (deliveries.find? record.id) report world
      ((through policy now [record] deliveries report).exchanges answer world)
      ((through policy now [record] deliveries report).execute answer world) := by
  rw [through]
  by_cases waits : (deliveries.find? record.id).any (fun delivery => !delivery.isDue now) = true
  · rw [if_pos waits]
    exact .deferred waits
  · rw [if_neg waits]
    generalize delivers : answer world (.deliver record) = tried
    obtain ⟨reply, delivered⟩ := tried
    rw [exchanges_answered delivers, execute_answered delivers]
    cases reply with
    | ok _ =>
      obtain ⟨exchanges, result, carriedOut, handled⟩ := handled_acknowledged delivers
      obtain ⟨rfl, rfl⟩ := carriedOut
      exact handled
    | error failure =>
      obtain ⟨exchanges, result, carriedOut, handled⟩ :=
        handled_refused (Bool.eq_false_of_not_eq_true waits) delivers
      obtain ⟨rfl, rfl⟩ := carriedOut
      exact handled

end

end Run

end Outbox
