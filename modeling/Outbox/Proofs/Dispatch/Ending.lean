import Outbox.Proofs.Dispatch.Sequence

/-!
# How a run ends

After its loads a run goes through the pending records and completes, unless an answer ends it or it
crashes. It crashes only when the delivery of a record fails whose next attempt would lie beyond the
calendar: everything else that a run may be answered with, it survives.
-/

namespace Outbox

open Calendar

namespace Run

/-! ## Runs that do not crash -/

/-- A run never crashes, whatever it is answered. -/
def Survives : Run → Prop
  | .done outcome => outcome ≠ .crashed
  | .ask _ resume => ∀ answer, (resume answer).Survives

/-- What follows a write survives if both ways on from it do. A store that cannot be reached ends
the run, but does not crash it. -/
theorem survives_afterWrite {first onRefused : Run} (report : Report)
    (firstSurvives : first.Survives) (refusedSurvives : onRefused.Survives)
    (reply : Except StoreError Unit) : (afterWrite report first onRefused reply).Survives := by
  cases reply with
  | ok _ => exact firstSurvives
  | error error =>
    rw [afterWrite]
    split
    · exact TickOutcome.noConfusion
    · exact refusedSurvives

/-- What follows an acknowledged delivery survives if the rest of the run does. -/
theorem survives_acknowledged (now : Timestamp) (record : EventRecord)
    (previous : Option Delivery) (report : Report) {next : Report → Run}
    (nextSurvives : ∀ report, (next report).Survives) :
    (acknowledged now record previous report next).Survives := by
  intro marked
  apply survives_afterWrite
  · cases previous with
    | none => exact nextSurvives _
    | some delivery =>
      intro cleared
      exact survives_afterWrite _ (nextSurvives _) (nextSurvives _) cleared
  · exact nextSurvives _

section

variable {World : Type} {answer : World → (request : Request) → request.Answer × World}
  {policy : RetryPolicy} {now : Timestamp}

/-- A run that survives does not end by a crash, whatever it is answered. -/
theorem Survives.outcome {run : Run} (survives : run.Survives) (world : World) :
    (run.execute answer world).1 ≠ .crashed := by
  induction run generalizing world with
  | done outcome => exact survives
  | ask request resume inductionHypothesis => exact inductionHypothesis _ (survives _) _

/-- What follows a failed delivery survives if the next attempt lies within the calendar and the
rest of the run survives. -/
theorem survives_refused {record : EventRecord} {previous : Option Delivery}
    {failure : DispatchError}
    (within : policy.recordFailure? previous record.id failure.message now ≠ none)
    (report : Report) {next : Report → Run} (nextSurvives : ∀ report, (next report).Survives) :
    (refused policy now record previous failure report next).Survives := by
  rw [refused]
  cases remembered : policy.recordFailure? previous record.id failure.message now with
  | none => exact absurd remembered within
  | some delivery =>
    intro saved
    exact survives_afterWrite _ (nextSurvives _) (nextSurvives _) saved

/-- The run through a single record crashes only because its delivery failed and its next attempt
would lie beyond the calendar. -/
theorem crashed_single {record : EventRecord} {deliveries : Table Delivery.event}
    {report : Report} {world : World}
    (crashed :
      ((through policy now [record] deliveries report).execute answer world).1 = .crashed) :
    ∃ failure, ⟨.deliver record, .error failure⟩ ∈
        (through policy now [record] deliveries report).exchanges answer world ∧
      policy.recordFailure? (deliveries.find? record.id) record.id failure.message now = none := by
  rw [through] at crashed ⊢
  by_cases waits : (deliveries.find? record.id).any (fun delivery => !delivery.isDue now) = true
  · rw [if_pos waits] at crashed
    cases crashed
  · rw [if_neg waits, execute_ask] at crashed
    rw [if_neg waits, exchanges_ask]
    generalize answer world (.deliver record) = tried at crashed ⊢
    obtain ⟨reply, later⟩ := tried
    have ends (final : Report) :
        (through policy now [] (deliveries.erase record.id) final).Survives :=
      TickOutcome.noConfusion
    cases reply with
    | ok _ => exact absurd crashed ((survives_acknowledged now record _ report ends).outcome later)
    | error failure =>
      refine ⟨failure, List.mem_cons_self, ?_⟩
      by_contra within
      exact absurd crashed ((survives_refused within report ends).outcome later)

/-- A run through records crashes only because the delivery of one of them failed whose next attempt
would lie beyond the calendar.

Induct over the records. What was loaded of the deliveries of the later ones is still there when the
first one has been treated, because they go by other identifiers. -/
theorem crashed_through {records : List EventRecord} {deliveries : Table Delivery.event}
    {report : Report} {world : World} (distinct : (records.map EventRecord.id).Nodup)
    (crashed : ((through policy now records deliveries report).execute answer world).1 = .crashed) :
    ∃ record ∈ records, ∃ failure, ⟨.deliver record, .error failure⟩ ∈
        (through policy now records deliveries report).exchanges answer world ∧
      policy.recordFailure? (deliveries.find? record.id) record.id failure.message now = none := by
  induction records generalizing deliveries report world with
  | nil => cases crashed
  | cons first rest inductionHypothesis =>
    obtain ⟨apart, restDistinct⟩ := List.nodup_cons.mp distinct
    rw [through_cons] at crashed ⊢
    by_cases completes : ∃ final, ((through policy now [first] deliveries report).execute answer
        world).1 = .completed final
    · obtain ⟨final, completed⟩ := completes
      have executed : (through policy now [first] deliveries report).execute answer world =
          (.completed final, _) := Prod.ext completed rfl
      rw [execute_andThen executed] at crashed
      rw [exchanges_andThen executed]
      obtain ⟨record, member, failure, tried, beyond⟩ := inductionHypothesis restDistinct crashed
      have foreign : record.id ≠ first.id := by
        intro same
        exact apart (same ▸ List.mem_map_of_mem member)
      rw [Table.find?_erase, if_neg foreign] at beyond
      exact ⟨record, List.mem_cons_of_mem first member, failure, List.mem_append_right _ tried,
        beyond⟩
    · have stopped : ∀ final, ((through policy now [first] deliveries report).execute answer
          world).1 ≠ .completed final := not_exists.mp completes
      rw [execute_andThen_of_stopped stopped] at crashed
      rw [exchanges_andThen_of_stopped stopped]
      exact ⟨first, List.mem_cons_self, crashed_single crashed⟩

variable (answer policy now) in
/-- A run through records completes and has tried each of them that does not wait, unless an answer
ends it or the next attempt of one of them lies beyond the calendar. -/
theorem through_ends {records : List EventRecord} (deliveries : Table Delivery.event)
    (report : Report) (world : World) (distinct : (records.map EventRecord.id).Nodup) :
    (∃ final, ((through policy now records deliveries report).execute answer world).1 =
        .completed final ∧ ∀ record ∈ records, Waits deliveries now record ∨
          ∃ reply, ⟨.deliver record, reply⟩ ∈
            (through policy now records deliveries report).exchanges answer world) ∨
    (∃ exchange ∈ (through policy now records deliveries report).exchanges answer world,
      ∃ failure, exchange.Fatal failure) ∨
    ∃ record ∈ records, ∃ failure, ⟨.deliver record, .error failure⟩ ∈
        (through policy now records deliveries report).exchanges answer world ∧
      policy.recordFailure? (deliveries.find? record.id) record.id failure.message now = none := by
  rcases through_tries answer policy now records deliveries report world with
    (crashed | ⟨final, error, aborted, _⟩) | completed
  · exact Or.inr (Or.inr (crashed_through distinct crashed))
  · obtain ⟨exchange, member, fatal⟩ := (aborted_iff_fatal answer _
      (endsOnFatal_through policy now records deliveries report) world error).mp ⟨final, aborted⟩
    exact Or.inr (Or.inl ⟨exchange, member, error, fatal⟩)
  · exact Or.inl completed

end

/-! ## What was loaded -/

section

variable {World : Type} {answer : World → (request : Request) → request.Answer × World}
  {policy : RetryPolicy} {now : Timestamp} {world : World}

/-- A run that exchanges more than its loads has loaded the pending records and the deliveries. Had
either load failed, the run would have ended there. -/
theorem tick_loaded (made : ∃ exchange ∈ (tick policy true now).exchanges answer world,
      exchange.isLoad = false) :
    ∃ pending deliveries middle loaded, answer world .loadPending = (.ok pending, middle) ∧
      answer middle .loadDeliveries = (.ok deliveries, loaded) := by
  obtain ⟨exchange, member, noLoad⟩ := made
  rw [tick] at member
  simp only [Bool.not_true, Bool.false_eq_true, if_false] at member
  generalize loadsPending : answer world .loadPending = first
  obtain ⟨reply, middle⟩ := first
  rcases (mem_exchanges_answered loadsPending).mp member with rfl | member
  · cases noLoad
  · cases reply with
    | error error => cases member
    | ok pending =>
      generalize loadsDeliveries : answer middle .loadDeliveries = second
      obtain ⟨reply, loaded⟩ := second
      rcases (mem_exchanges_answered loadsDeliveries).mp member with rfl | member
      · cases noLoad
      · cases reply with
        | error error => cases member
        | ok deliveries => exact ⟨pending, deliveries, middle, loaded, rfl, loadsDeliveries⟩

variable (policy now) in
/-- With what it has loaded a run goes through the pending records in the order of delivery. -/
theorem execute_loaded {pending : List EventRecord} {deliveries : Table Delivery.event}
    {middle loaded : World} (loadsPending : answer world .loadPending = (.ok pending, middle))
    (loadsDeliveries : answer middle .loadDeliveries = (.ok deliveries, loaded)) :
    (tick policy true now).execute answer world =
        (through policy now (MemoryStore.inOrder pending) deliveries
          { Report.empty with considered := pending.length }).execute answer loaded ∧
      (tick policy true now).exchanges answer world =
        ⟨.loadPending, .ok pending⟩ :: ⟨.loadDeliveries, .ok deliveries⟩ ::
          (through policy now (MemoryStore.inOrder pending) deliveries
            { Report.empty with considered := pending.length }).exchanges answer loaded := by
  rw [tick]
  simp only [Bool.not_true, Bool.false_eq_true, if_false, execute_ask, exchanges_ask, loadsPending,
    loadsDeliveries, and_self]

variable (policy now) in
/-- When the pending records cannot be loaded, a run is aborted and reports nothing. -/
theorem execute_unlisted {middle : World} {error : StoreError}
    (fails : answer world .loadPending = (.error error, middle)) :
    (tick policy true now).execute answer world = (.aborted .empty error, middle) := by
  rw [tick]
  simp only [Bool.not_true, Bool.false_eq_true, if_false, execute_ask, fails]
  rfl

variable (policy now) in
/-- When the deliveries cannot be loaded, a run is aborted and reports nothing. -/
theorem execute_unrecalled {pending : List EventRecord} {middle loaded : World}
    {error : StoreError} (loadsPending : answer world .loadPending = (.ok pending, middle))
    (fails : answer middle .loadDeliveries = (.error error, loaded)) :
    (tick policy true now).execute answer world = (.aborted .empty error, loaded) := by
  rw [tick]
  simp only [Bool.not_true, Bool.false_eq_true, if_false, execute_ask, loadsPending, fails]
  rfl

end

end Run

end Outbox
