import Outbox.Proofs.Dispatch.Order
import Outbox.Proofs.Dispatch.Refusal

/-!
# What a run may still ask

A run under way is what is left of it, so what it may still ask is a property of the tree that is
left. `Run.May` says that some answers lead to a request, and it is the opposite of `Run.Only`.

A leading run loads the pending records, then the deliveries, and from then on makes requests about
records only; `Run.Stage` lists these three stages. In the last one a run is tidy: once it has
written what came of a delivery, it has no more to do with the record, except that it may forget the
deliveries of a record that it has marked as sent. And a record that was parked when the deliveries
were loaded is left alone altogether.
-/

namespace Outbox

open Calendar

/-- Whether an answer is one that a store can give: pending records are loaded each of them once. -/
def Request.Credible : (request : Request) → request.Answer → Prop
  | .loadPending, .ok pending => (pending.map EventRecord.id).Nodup
  | _, _ => True

namespace Run

/-- Whether a run may still make a request of some kind, depending on the answers. -/
def May (concern : Request → Prop) : Run → Prop
  | .done _ => False
  | .ask request resume => concern request ∨ ∃ answer, (resume answer).May concern

/-- Whether a run loads no pending records any more. -/
def Listed (run : Run) : Prop := run.Only (· ≠ .loadPending)

/-- Whether a run loads nothing any more, so that all of its requests are about records. -/
def Loaded (run : Run) : Prop := run.Only (·.subject? ≠ none)

/-- Whether a run has no more to do with a record after a write about it, except that it may forget
the deliveries of a record that it has marked as sent. -/
def Tidy : Run → Prop
  | .done _ => True
  | .ask request resume => ∀ answer, (resume answer).Tidy ∧
    ∀ write event, request.write? = some (write, event) →
      (resume answer).Only fun later =>
        later.subject? = some event → write = .markSent ∧ later = .clearDelivery event

/-- Whether the first thing that a run asks about a record, if anything, is to deliver it. -/
def TriesFirst (event : Identifier) : Run → Prop
  | .done _ => True
  | .ask request resume => (∃ record, request = .deliver record ∧ record.id = event) ∨
    request.subject? ≠ some event ∧ ∀ answer, (resume answer).TriesFirst event

/-- What a run does with the deliveries that it loads. -/
def withDeliveries (policy : RetryPolicy) (now : Timestamp) (pending : List EventRecord) :
    Except StoreError (Table Delivery.event) → Run
  | .error error => .done (.aborted .empty error)
  | .ok deliveries => through policy now (MemoryStore.inOrder pending) deliveries
      { Report.empty with considered := pending.length }

/-- What a run does with the pending records that it loads. -/
def withPending (policy : RetryPolicy) (now : Timestamp) :
    Except StoreError (List EventRecord) → Run
  | .error error => .done (.aborted .empty error)
  | .ok pending => .ask .loadDeliveries (withDeliveries policy now pending)

/-- How far a run is: it has yet to load the pending records, it has loaded these and has yet to
load the deliveries, or it is on its way through the records. -/
inductive Stage : Run → Prop
  | beginning (policy : RetryPolicy) (now : Timestamp) :
      Stage (.ask .loadPending (withPending policy now))
  | listed (policy : RetryPolicy) (now : Timestamp) (pending : List EventRecord)
      (distinct : (pending.map EventRecord.id).Nodup) :
      Stage (.ask .loadDeliveries (withDeliveries policy now pending))
  | loaded (run : Run) (loaded : run.Loaded) (tidy : run.Tidy) : Stage run

section

variable {permitted concern : Request → Prop} {event : Identifier} {run : Run}
  {request : Request} {resume : request.Answer → Run}

/-! ## May and only -/

/-- What a run may not ask it never asks, and the other way round. -/
theorem not_may_iff : ¬ run.May concern ↔ run.Only (¬ concern ·) := by
  induction run with
  | done outcome => exact iff_of_true not_false trivial
  | ask request resume inductionHypothesis =>
    rw [May, Only, not_or, not_exists]
    exact and_congr_right fun _ => forall_congr' inductionHypothesis

/-- What a run may ask after an answer it may ask before. -/
theorem May.of_resume {answer : request.Answer} (may : (resume answer).May concern) :
    (ask request resume).May concern :=
  Or.inr ⟨answer, may⟩

/-- A run only asks something if it does so and the run after it does. -/
theorem only_andThen {next : Report → Run} (first : run.Only permitted)
    (second : ∀ report, (next report).Only permitted) : (run.andThen next).Only permitted := by
  induction run with
  | done outcome =>
    cases outcome with
    | completed report => exact second report
    | _ => trivial
  | ask request resume inductionHypothesis =>
    refine ⟨first.1, ?_⟩
    intro answer
    exact inductionHypothesis answer (first.2 answer)

/-- What follows a write is one of the two ways to go on, or the end. -/
theorem afterWrite_cases {motive : Run → Prop} (report : Report) {next onRefused : Run}
    (reply : Except StoreError Unit) (whenDone : motive next) (whenRefused : motive onRefused)
    (whenBroken : ∀ error, motive (.done (.aborted report error))) :
    motive (afterWrite report next onRefused reply) := by
  cases reply with
  | ok _ => exact whenDone
  | error error =>
    rw [afterWrite]
    split
    · exact whenBroken error
    · exact whenRefused

/-! ## Through the records -/

/-- A run through records loads nothing. -/
theorem loaded_through (policy : RetryPolicy) (now : Timestamp) (records : List EventRecord)
    (deliveries : Table Delivery.event) (report : Report) :
    (through policy now records deliveries report).Loaded := by
  apply (only_through policy now records deliveries report).mono
  rintro request ⟨record, _, subject⟩ none
  rw [subject] at none
  cases none

/-- A run that loads nothing loads no pending records. -/
theorem Loaded.listed (loaded : run.Loaded) : run.Listed := by
  apply Only.mono loaded
  rintro request about rfl
  exact about rfl

/-- A run has nothing to do with a record that was parked when the deliveries were loaded. It passes
over the record itself, and the requests about the others name the others. -/
theorem only_parked (policy : RetryPolicy) (now : Timestamp) {records : List EventRecord}
    (distinct : (records.map EventRecord.id).Nodup) {deliveries : Table Delivery.event}
    {delivery : Delivery} (found : deliveries.find? event = some delivery)
    (parked : delivery.parked = true) (report : Report) :
    (through policy now records deliveries report).Only (·.subject? ≠ some event) := by
  induction records generalizing deliveries report with
  | nil => trivial
  | cons record rest inductionHypothesis =>
    obtain ⟨apart, restDistinct⟩ := List.nodup_cons.mp distinct
    rw [through_cons]
    by_cases same : record.id = event
    · subst same
      have waits :
          (deliveries.find? record.id).any (fun delivery => !delivery.isDue now) = true := by
        simp [found, Delivery.isDue, parked]
      apply only_andThen
      · rw [through, if_pos waits]
        trivial
      · apply only_foreign
        intro other member equal
        exact apart (equal ▸ List.mem_map_of_mem member)
    · apply only_andThen
      · apply only_foreign
        exact List.forall_mem_singleton.mpr same
      · apply inductionHypothesis restDistinct
        rw [Table.find?_erase, if_neg (Ne.symm same)]
        exact found

/-- What follows an acknowledged delivery is tidy if the part about the other records is, and is not
about this one. -/
theorem tidy_acknowledged (now : Timestamp) (record : EventRecord) (previous : Option Delivery)
    (report : Report) {next : Report → Run} (nextTidy : ∀ report, (next report).Tidy)
    (foreign : ∀ report, (next report).Only (·.subject? ≠ some record.id)) :
    (acknowledged now record previous report next).Tidy := by
  have silent (report : Report) (write : Write) : (next report).Only fun later =>
      later.subject? = some record.id → write = .markSent ∧ later = .clearDelivery record.id :=
    (foreign report).mono fun later apart about => absurd about apart
  have forgets (report : Report) : (ask (.clearDelivery record.id)
      (afterWrite report (next report) (next report))).Tidy := by
    intro cleared
    refine ⟨afterWrite_cases report cleared (nextTidy _) (nextTidy _) fun _ => trivial, ?_⟩
    rintro write event written
    obtain ⟨rfl, rfl⟩ := Prod.mk.inj (Option.some.inj written)
    exact only_afterWrite _ (silent _ _) (silent _ _) cleared
  intro marked
  constructor
  · apply afterWrite_cases report marked
    · cases previous with
      | none => exact nextTidy _
      | some delivery => exact forgets _
    · exact nextTidy _
    · exact fun _ => trivial
  · rintro write event written
    obtain ⟨rfl, rfl⟩ := Prod.mk.inj (Option.some.inj written)
    apply only_afterWrite
    · cases previous with
      | none => exact silent _ _
      | some delivery =>
        refine ⟨fun _ => ⟨rfl, rfl⟩, ?_⟩
        intro cleared
        exact only_afterWrite _ (silent _ _) (silent _ _) cleared
    · exact silent _ _

/-- What follows a failed delivery is tidy under the same conditions. All that comes before the
other records is the write about the record that failed. -/
theorem tidy_refused (policy : RetryPolicy) (now : Timestamp) (record : EventRecord)
    (previous : Option Delivery) (error : DispatchError) (report : Report) {next : Report → Run}
    (nextTidy : ∀ report, (next report).Tidy)
    (foreign : ∀ report, (next report).Only (·.subject? ≠ some record.id)) :
    (refused policy now record previous error report next).Tidy := by
  rw [refused]
  cases remembered : policy.recordFailure? previous record.id error.message now with
  | none => trivial
  | some delivery =>
    have named : delivery.event = record.id := RetryPolicy.event_of_recordFailure? remembered
    intro saved
    refine ⟨afterWrite_cases _ saved (nextTidy _) (nextTidy _) fun _ => trivial, ?_⟩
    rintro write event written
    obtain ⟨rfl, rfl⟩ := Prod.mk.inj (Option.some.inj written)
    have silent (report : Report) : (next report).Only fun later =>
        later.subject? = some delivery.event →
          Write.saveDelivery = .markSent ∧ later = .clearDelivery delivery.event := by
      apply (foreign report).mono
      intro later apart about
      exact absurd (named ▸ about) apart
    exact only_afterWrite _ (silent _) (silent _) saved

/-- A run through records, each of which occurs once, is tidy. The induction is on the records, and
what follows the first of them is about the rest only. -/
theorem tidy_through (policy : RetryPolicy) (now : Timestamp) {records : List EventRecord}
    (distinct : (records.map EventRecord.id).Nodup) (deliveries : Table Delivery.event)
    (report : Report) : (through policy now records deliveries report).Tidy := by
  induction records generalizing deliveries report with
  | nil => trivial
  | cons record rest inductionHypothesis =>
    obtain ⟨apart, restDistinct⟩ := List.nodup_cons.mp distinct
    have restTidy := inductionHypothesis restDistinct (deliveries.erase record.id)
    have differs : ∀ other ∈ rest, other.id ≠ record.id := by
      intro other member same
      exact apart (same ▸ List.mem_map_of_mem member)
    have foreign := only_foreign policy now differs (deliveries.erase record.id)
    rw [through]
    split
    · exact restTidy _
    · intro reply
      refine ⟨?_, by rintro write event ⟨⟩⟩
      cases reply with
      | ok _ => exact tidy_acknowledged _ _ _ _ restTidy foreign
      | error error => exact tidy_refused _ _ _ _ _ _ restTidy foreign

/-! ## Tries -/

/-- A run that has nothing to do with a record does not begin with anything else than a try. -/
theorem triesFirst_of_only (only : run.Only (·.subject? ≠ some event)) : run.TriesFirst event := by
  induction run with
  | done outcome => trivial
  | ask request resume inductionHypothesis =>
    right
    exact ⟨only.1, fun answer => inductionHypothesis answer (only.2 answer)⟩

/-- Runs one after the other try a record first if each of them does. -/
theorem triesFirst_andThen {next : Report → Run} (first : run.TriesFirst event)
    (second : ∀ report, (next report).TriesFirst event) : (run.andThen next).TriesFirst event := by
  induction run with
  | done outcome =>
    cases outcome with
    | completed report => exact second report
    | _ => trivial
  | ask request resume inductionHypothesis =>
    rcases first with tries | ⟨foreign, rest⟩
    · exact Or.inl tries
    · right
      exact ⟨foreign, fun answer => inductionHypothesis answer (rest answer)⟩

/-- A run through records does nothing about a record before it tries it. What it does about the
records before is about these only. -/
theorem triesFirst_through (policy : RetryPolicy) (now : Timestamp) (records : List EventRecord)
    (deliveries : Table Delivery.event) (report : Report) :
    (through policy now records deliveries report).TriesFirst event := by
  induction records generalizing deliveries report with
  | nil => trivial
  | cons record rest inductionHypothesis =>
    rw [through_cons]
    apply triesFirst_andThen
    · by_cases same : record.id = event
      · rw [through]
        split
        · trivial
        · exact Or.inl ⟨record, rfl, same⟩
      · apply triesFirst_of_only
        apply only_foreign
        exact List.forall_mem_singleton.mpr same
    · exact inductionHypothesis (deliveries.erase record.id)

/-! ## The stages of a run -/

/-- A run that has ended is past its loads. -/
theorem Stage.ended (outcome : TickOutcome) : Stage (.done outcome) :=
  .loaded _ trivial trivial

/-- A run that a dispatcher begins is at its beginning, or has ended at once. -/
theorem stage_tick (policy : RetryPolicy) (isLeader : Bool) (now : Timestamp) :
    (tick policy isLeader now).Stage := by
  cases isLeader with
  | false => exact .ended _
  | true =>
    have leading : tick policy true now = .ask .loadPending (withPending policy now) := rfl
    rw [leading]
    exact .beginning policy now

/-- A run that has loaded the pending records and the deliveries is on its way through the
records. -/
theorem stage_withDeliveries (policy : RetryPolicy) (now : Timestamp) {pending : List EventRecord}
    (distinct : (pending.map EventRecord.id).Nodup)
    (answer : Except StoreError (Table Delivery.event)) :
    (withDeliveries policy now pending answer).Stage := by
  cases answer with
  | error error => exact .ended _
  | ok deliveries =>
    refine .loaded _ (loaded_through ..) ?_
    apply tidy_through
    exact ((MemoryStore.inOrder_perm pending).map EventRecord.id).nodup_iff.mpr distinct

/-- With a credible answer a run goes on to its next stage or stays in the last one. -/
theorem Stage.answered (stage : (ask request resume).Stage) {answer : request.Answer}
    (credible : request.Credible answer) : (resume answer).Stage := by
  cases stage with
  | beginning policy now =>
    cases answer with
    | error error => exact .ended _
    | ok pending => exact .listed policy now pending credible
  | listed policy now pending distinct => exact stage_withDeliveries policy now distinct answer
  | loaded _ loaded tidy => exact .loaded _ (loaded.2 answer) (tidy answer).1

/-- A run that has loaded the pending records has nothing to do with any other record. -/
theorem only_withDeliveries (policy : RetryPolicy) (now : Timestamp) {pending : List EventRecord}
    (foreign : ∀ record ∈ pending, record.id ≠ event)
    (answer : Except StoreError (Table Delivery.event)) :
    (withDeliveries policy now pending answer).Only (·.subject? ≠ some event) := by
  cases answer with
  | error error => trivial
  | ok deliveries =>
    apply only_foreign
    intro record member
    exact foreign record ((MemoryStore.mem_inOrder pending record).mp member)

/-- A run that has loaded a record as parked has nothing to do with it. -/
theorem only_withDeliveries_parked (policy : RetryPolicy) (now : Timestamp)
    {pending : List EventRecord} (distinct : (pending.map EventRecord.id).Nodup)
    {deliveries : Table Delivery.event} {delivery : Delivery}
    (found : deliveries.find? event = some delivery) (parked : delivery.parked = true) :
    (withDeliveries policy now pending (.ok deliveries)).Only (·.subject? ≠ some event) := by
  refine only_parked policy now ?_ found parked _
  exact ((MemoryStore.inOrder_perm pending).map EventRecord.id).nodup_iff.mpr distinct

/-- A run that is past its first load loads no pending records any more. -/
theorem Stage.listed_of_ne (stage : (ask request resume).Stage) (past : request ≠ .loadPending) :
    (ask request resume).Listed := by
  cases stage with
  | beginning policy now => exact absurd rfl past
  | listed policy now pending distinct =>
    refine ⟨nofun, ?_⟩
    intro answer
    cases answer with
    | error error => trivial
    | ok deliveries => exact (loaded_through ..).listed
  | loaded _ loaded tidy => exact loaded.listed

/-- A run that has just begun and loads nothing has ended at once. -/
theorem Loaded.only_tick {policy : RetryPolicy} {isLeader : Bool} {now : Timestamp}
    (loaded : (tick policy isLeader now).Loaded) : (tick policy isLeader now).Only permitted := by
  cases isLeader with
  | false => trivial
  | true => exact absurd rfl loaded.1

/-- A run that loads no deliveries after the pending records has ended there. -/
theorem Loaded.only_withPending {policy : RetryPolicy} {now : Timestamp}
    {answer : Except StoreError (List EventRecord)}
    (loaded : (withPending policy now answer).Loaded) :
    (withPending policy now answer).Only permitted := by
  cases answer with
  | error error => trivial
  | ok pending => exact absurd rfl loaded.1

/-- A run does nothing about a record before it tries it, if this is so once everything is loaded.
The loads are about no record. -/
theorem Stage.triesFirst (stage : run.Stage) (onceLoaded : run.Loaded → run.TriesFirst event) :
    run.TriesFirst event := by
  have afterLoads (policy : RetryPolicy) (now : Timestamp) (pending : List EventRecord)
      (answer : Except StoreError (Table Delivery.event)) :
      (withDeliveries policy now pending answer).TriesFirst event := by
    cases answer with
    | error error => trivial
    | ok deliveries => exact triesFirst_through ..
  cases stage with
  | beginning policy now =>
    right
    refine ⟨nofun, ?_⟩
    intro answer
    cases answer with
    | error error => trivial
    | ok pending => exact Or.inr ⟨nofun, afterLoads policy now pending⟩
  | listed policy now pending _ => exact Or.inr ⟨nofun, afterLoads policy now pending⟩
  | loaded _ loaded _ => exact onceLoaded loaded

/-- A run that asks about a record is on its way through the records. -/
theorem Stage.of_subject (stage : (ask request resume).Stage) (about : request.subject? ≠ none) :
    (ask request resume).Loaded ∧ (ask request resume).Tidy := by
  cases stage with
  | beginning policy now => exact absurd rfl about
  | listed policy now pending distinct => exact absurd rfl about
  | loaded _ loaded tidy => exact ⟨loaded, tidy⟩

end

end Run

end Outbox
