import Outbox.Proofs.Dispatch.Handling

/-!
# What the counters of a report add up to

Every record that a run comes to is counted as sent, failed or deferred, so the counters of a report
say how far the run has come. A run that completes has counted every one of its records. A run that
is aborted has counted the records before the one at which it was aborted, and that one as well
unless what failed was to mark it as sent. `Run.AbortedAt` says which record that is, and
`Run.FailsOn` which write about it failed.
-/

namespace Outbox

open Calendar

/-- The records that a report has counted, whatever became of them. -/
def Report.counted (report : Report) : Nat := report.sent + report.failed + report.deferred

/-- How a report is left after a number of further records. -/
structure Report.Advances (report : Report) (number : Nat) (final : Report) : Prop where
  considered : final.considered = report.considered
  counted : final.counted = report.counted + number
  /-- Of the records only failed ones are parked. -/
  parked : final.parked + report.failed ≤ report.parked + final.failed

namespace Report.Advances

/-- No record is accounted for by a report that stays as it is. -/
theorem refl (report : Report) : report.Advances 0 report := ⟨rfl, rfl, le_rfl⟩

/-- What is accounted for in two steps adds up. -/
theorem trans {first second third : Report} {earlier later : Nat}
    (before : first.Advances earlier second) (after : second.Advances later third) :
    first.Advances (earlier + later) third where
  considered := after.considered.trans before.considered
  counted := by rw [after.counted, before.counted, Nat.add_assoc]
  parked := by
    have before := before.parked
    have after := after.parked
    omega

/-- A record that waits is counted as deferred. -/
theorem deferred (report : Report) :
    report.Advances 1 { report with deferred := report.deferred + 1 } := ⟨rfl, rfl, le_rfl⟩

/-- A record that is marked as sent is counted as sent. -/
theorem sent (report : Report) : report.Advances 1 { report with sent := report.sent + 1 } where
  considered := rfl
  counted := by
    simp only [Report.counted]
    omega
  parked := le_rfl

/-- A record that fails is counted as failed, and may be counted as parked as well. -/
theorem failed (report : Report) {parked : Nat} (atMost : parked ≤ 1) :
    report.Advances 1
      { report with failed := report.failed + 1, parked := report.parked + parked } where
  considered := rfl
  counted := by
    simp only [Report.counted]
    omega
  parked := by
    dsimp only
    omega

/-- What has been counted since a run began. -/
theorem of_begun {considered number : Nat} {final : Report}
    (advances : { Report.empty with considered }.Advances number final) :
    final.considered = considered ∧ final.sent + final.failed + final.deferred = number ∧
      final.parked ≤ final.failed := by
  obtain ⟨same, counted, parked⟩ := advances
  simp only [Report.counted, Report.empty, Nat.zero_add, Nat.add_zero] at counted parked
  exact ⟨same, counted, parked⟩

end Report.Advances

/-- How many records a run has counted of the one at which a write aborts it. Only a record that
could not be marked as sent is not counted. -/
def Write.counted : Write → Nat
  | .markSent => 0
  | .clearDelivery | .saveDelivery => 1

namespace Run

/-! ## One record -/

section

variable {World : Type} {answer : World → (request : Request) → request.Answer × World}
  {policy : RetryPolicy} {now : Timestamp} {record : EventRecord} {report : Report} {world : World}

/-- Whether the last thing that is exchanged is a write about a record that fails, because the store
cannot be reached. -/
def FailsOn (write : Write) (event : Identifier) (error : StoreError)
    (exchanges : List Exchange) : Prop :=
  ∃ earlier failing, exchanges = earlier ++ [failing] ∧
    failing.request.write? = some (write, event) ∧ failing.Fatal error

/-- What was exchanged before makes no difference to that. -/
theorem FailsOn.after {write : Write} {event : Identifier} {error : StoreError}
    {exchanges : List Exchange} (fails : FailsOn write event error exchanges)
    (before : List Exchange) : FailsOn write event error (before ++ exchanges) := by
  obtain ⟨earlier, failing, rfl, writes, fatal⟩ := fails
  exact ⟨before ++ earlier, failing, (List.append_assoc ..).symm, writes, fatal⟩

/-- How the last write about a record is answered makes no difference to the report. -/
theorem report_endedBy {report final : Report} {reply : Except StoreError Unit}
    (reported : (endedBy report reply).report? = some final) : final = report := by
  cases reply with
  | ok _ => exact (Option.some.inj reported).symm
  | error error =>
    rw [endedBy, stoppedBy] at reported
    split at reported
    · exact (Option.some.inj reported).symm
    · exact (Option.some.inj reported).symm

/-- What ends as aborted behind a write has the report of the write, and the write has failed
because the store cannot be reached. -/
theorem aborted_endedBy {report final : Report} {reply : Except StoreError Unit}
    {error : StoreError} (aborted : endedBy report reply = .aborted final error) :
    final = report ∧ reply = .error error ∧ error.isUnavailable = true := by
  cases reply with
  | ok _ => cases aborted
  | error other =>
    rw [endedBy, stoppedBy] at aborted
    split at aborted
    · next unavailable =>
      obtain ⟨rfl, rfl⟩ := TickOutcome.aborted.inj aborted
      exact ⟨rfl, rfl, unavailable⟩
    · cases aborted

variable {previous : Option Delivery} {exchanges : List Exchange} {outcome : TickOutcome}
  {after : World} {final : Report}

/-- A record that does not stop the run is counted once: as deferred, as sent, or as failed and then
perhaps as parked. Its kind of end says which. -/
theorem Handled.completed
    (handled : Handled answer policy now record previous report world exchanges (outcome, after))
    (completed : outcome = .completed final) : report.Advances 1 final := by
  cases handled with
  | deferred waits =>
    obtain rfl := TickOutcome.completed.inj completed
    exact .deferred report
  | sent fresh delivers marks =>
    obtain rfl := TickOutcome.completed.inj completed
    exact .sent report
  | sentAgain known delivers marks clears =>
    obtain rfl := report_endedBy (congrArg TickOutcome.report? completed)
    exact .sent report
  | unmarked delivers refuses =>
    split at completed
    · cases completed
    · obtain rfl := TickOutcome.completed.inj completed
      exact .failed report (Nat.zero_le 1)
  | failed due fails remembered saves =>
    obtain rfl := report_endedBy (congrArg TickOutcome.report? completed)
    exact .failed report (by split <;> decide)
  | crashed fails beyond => cases completed

/-- A record at which the run is aborted is counted unless it could not be marked as sent. The
counting comes before the write in the other two cases, so the report includes it. -/
theorem Handled.aborted {error : StoreError}
    (handled : Handled answer policy now record previous report world exchanges (outcome, after))
    (aborted : outcome = .aborted final error) :
    ∃ write, FailsOn write record.id error exchanges ∧ report.Advances write.counted final := by
  cases handled with
  | deferred waits => cases aborted
  | sent fresh delivers marks => cases aborted
  | sentAgain known delivers marks clears =>
    obtain ⟨rfl, rfl, unavailable⟩ := aborted_endedBy aborted
    refine ⟨.clearDelivery, ⟨[_, _], _, rfl, rfl, ?_⟩, .sent report⟩
    exact (fatal_clearDelivery ..).mpr ⟨rfl, unavailable⟩
  | unmarked delivers refuses =>
    split at aborted
    · next unavailable =>
      obtain ⟨rfl, rfl⟩ := TickOutcome.aborted.inj aborted
      refine ⟨.markSent, ⟨[_], _, rfl, rfl, ?_⟩, .refl report⟩
      exact (fatal_markSent ..).mpr ⟨rfl, unavailable⟩
    · cases aborted
  | failed due fails remembered saves =>
    obtain ⟨rfl, rfl, unavailable⟩ := aborted_endedBy aborted
    have named := congrArg (fun event => some (Write.saveDelivery, event))
      (RetryPolicy.event_of_recordFailure? remembered)
    refine ⟨.saveDelivery, ⟨[_], _, rfl, named, ?_⟩, .failed report (by split <;> decide)⟩
    exact (fatal_saveDelivery ..).mpr ⟨rfl, unavailable⟩
  | crashed fails beyond => cases aborted

end

/-! ## All records -/

section

variable {World : Type} (answer : World → (request : Request) → request.Answer × World)
  (policy : RetryPolicy) (now : Timestamp)

/-- A run through records is aborted at one of them: it completes the ones before it and is aborted
by the run through this one. -/
def AbortedAt (deliveries : Table Delivery.event) (start : Report) (world : World)
    (before : List EventRecord) (record : EventRecord) (final : Report) (error : StoreError) :
    Prop :=
  ∃ report reached after,
    (through policy now before deliveries start).execute answer world =
      (.completed report, reached) ∧
    (through policy now [record] (remaining deliveries before) report).execute answer reached =
      (.aborted final error, after)

/-- What a run through records has counted in the end.

Induct over the records. The first one is counted before the others are, or it aborts the run and is
the last one that may be counted. -/
theorem advances_through (records : List EventRecord) (deliveries : Table Delivery.event)
    (start : Report) (world : World) :
    (∀ final, ((through policy now records deliveries start).execute answer world).1 =
      .completed final → start.Advances records.length final) ∧
    (∀ final error, ((through policy now records deliveries start).execute answer world).1 =
      .aborted final error → ∃ before record later write,
        records = before ++ record :: later ∧
        AbortedAt answer policy now deliveries start world before record final error ∧
        FailsOn write record.id error
          ((through policy now records deliveries start).exchanges answer world) ∧
        start.Advances (before.length + write.counted) final) := by
  induction records generalizing deliveries start world with
  | nil =>
    constructor
    · intro final completed
      obtain rfl := TickOutcome.completed.inj completed
      exact .refl _
    · intro final error aborted
      cases aborted
  | cons first rest inductionHypothesis =>
    have handled := handled_single answer policy now first start world deliveries
    rw [through_cons]
    generalize executed : (through policy now [first] deliveries start).execute answer world = ended
      at handled
    obtain ⟨outcome, next⟩ := ended
    by_cases completes : ∃ report, outcome = .completed report
    · obtain ⟨report, rfl⟩ := completes
      have counted : start.Advances 1 report := handled.completed rfl
      rw [execute_andThen executed, exchanges_andThen executed]
      obtain ⟨completed, aborted⟩ := inductionHypothesis (deliveries.erase first.id) report next
      constructor
      · intro final ends
        rw [List.length_cons, Nat.add_comm]
        exact counted.trans (completed final ends)
      · intro final error ends
        obtain ⟨before, record, later, write, rfl, ⟨middle, reached, after, passes, stops⟩, fails,
          advances⟩ := aborted final error ends
        refine ⟨first :: before, record, later, write, rfl, ⟨middle, reached, after, ?_, stops⟩,
          fails.after _, ?_⟩
        · rw [through_cons, execute_andThen executed]
          exact passes
        · rw [List.length_cons, Nat.add_comm before.length, Nat.add_assoc]
          exact counted.trans advances
    · have stopped : ∀ report, ((through policy now [first] deliveries start).execute answer
          world).1 ≠ .completed report := by
        rw [executed]
        exact not_exists.mp completes
      rw [execute_andThen_of_stopped stopped, exchanges_andThen_of_stopped stopped, executed]
      constructor
      · intro final ends
        exact absurd ⟨final, ends⟩ completes
      · rintro final error rfl
        obtain ⟨write, fails, advances⟩ := handled.aborted rfl
        refine ⟨[], first, rest, write, rfl, ⟨start, world, next, rfl, executed⟩, fails, ?_⟩
        rwa [List.length_nil, Nat.zero_add]

end

end Run

end Outbox
