import Mathlib.Data.Set.Card
import Outbox.Proofs.Dispatch.Accounting
import Outbox.Proofs.Dispatch.Interruption

/-!
# What the counters of a report count

A report counts records as sent and as parked. In surroundings that are `Durable`, so that a refused
write changes nothing and an accepted one takes effect, these are exactly the records that were
sent, and the deliveries that were parked, in the course of the run: what a run counts of one record
is what has changed under its identifier, and `Run.counts_through` adds that up over a run.

The number of parked deliveries relies on it that none of them was refused. The run counts a
delivery as parked before it asks to remember that.
-/

namespace Outbox

open Calendar

namespace Standing

variable {before after : Standing}

/-- Whether a record is sent. -/
def isSent (standing : Standing) : Bool := standing.record.any fun record => record.status = .sent

/-- Whether the delivery of a record is parked. -/
def isParked (standing : Standing) : Bool := standing.delivery.any Delivery.parked

/-- Whether a record that was not sent is sent now. -/
def becomesSent (before after : Standing) : Bool := !before.isSent && after.isSent

/-- Whether a delivery that was not parked is parked now. -/
def becomesParked (before after : Standing) : Bool := !before.isParked && after.isParked

/-- Whether a record becomes sent is seen from the record afterwards. -/
theorem becomesSent_congr {later : Standing} (same : later.record = after.record) :
    before.becomesSent later = before.becomesSent after := by
  rw [becomesSent, becomesSent, isSent, isSent, isSent, same]

/-- A record that stays as it is does not become sent. -/
theorem becomesSent_of_kept (kept : after.record = before.record) :
    before.becomesSent after = false := by
  rw [becomesSent, isSent, isSent, kept, Bool.not_and_self]

/-- A delivery that stays as it is does not become parked. -/
theorem becomesParked_of_kept (kept : after.delivery = before.delivery) :
    before.becomesParked after = false := by
  rw [becomesParked, isParked, isParked, kept, Bool.not_and_self]

/-- A delivery that is forgotten does not become parked. -/
theorem becomesParked_of_none (forgotten : after.delivery = none) :
    before.becomesParked after = false := by
  rw [becomesParked, isParked.eq_def after, forgotten, Option.any_none, Bool.and_false]

/-- When a delivery that is due or was unknown is replaced, whether it becomes parked is up to the
new one. -/
theorem becomesParked_of_due {now : Timestamp} {delivery : Delivery}
    (due : before.delivery.any (fun delivery => !delivery.isDue now) = false)
    (remembered : after.delivery = some delivery) :
    before.becomesParked after = delivery.parked := by
  have unparked : before.isParked = false := by
    rw [isParked]
    cases known : before.delivery with
    | none => rfl
    | some earlier =>
      have isDue : earlier.isDue now = true := by simpa [known] using due
      rw [Delivery.isDue, Bool.and_eq_true, Bool.not_eq_true'] at isDue
      exact isDue.1
  rw [becomesParked, unparked, isParked, remembered]
  rfl

end Standing

namespace Run

section

variable {World : Type} {surroundings : Surroundings World} {policy : RetryPolicy}
  {now : Timestamp} {record : EventRecord} {world delivered after : World}

/-- To deliver a record changes neither the record nor what is remembered of its deliveries. An
accepted delivery publishes an envelope, and a refused one does nothing at all. -/
theorem kept_by_delivery {reply : Except DispatchError Unit}
    (delivers : surroundings.answer world (.deliver record) = (reply, delivered)) :
    (surroundings.standing delivered record.id).record =
        (surroundings.standing world record.id).record ∧
      (surroundings.standing delivered record.id).delivery =
        (surroundings.standing world record.id).delivery := by
  have published := surroundings.delivered world record
  have unchanged := surroundings.refused world record
  rw [delivers] at published unchanged
  cases reply with
  | ok _ =>
    obtain ⟨envelope, published⟩ := published rfl
    rw [published]
    exact ⟨rfl, rfl⟩
  | error failure =>
    rw [unchanged failure rfl]
    exact ⟨rfl, rfl⟩

/-- A delivered record that is marked as sent becomes sent, and keeps what is remembered of its
deliveries. -/
theorem sent_by_mark (stored : (surroundings.standing world record.id).record = some record)
    (pending : record.status = .pending)
    (delivers : surroundings.answer world (.deliver record) = (.ok (), delivered))
    (marks : surroundings.answer delivered (.markSent record.id now) = (.ok (), after)) :
    (surroundings.standing world record.id).becomesSent
        (surroundings.standing after record.id) = true ∧
      (surroundings.standing after record.id).delivery =
        (surroundings.standing world record.id).delivery := by
  obtain ⟨sameRecord, sameDelivery⟩ := kept_by_delivery delivers
  have marked := surroundings.marked delivered record.id now
  rw [marks] at marked
  rw [marked rfl, Standing.becomesSent, Standing.isSent, Standing.isSent, sameRecord, stored]
  refine ⟨?_, sameDelivery⟩
  simp [pending]

/-- A record that cannot be marked as sent keeps everything that is held of it but what is
published. -/
theorem kept_by_refused_mark (durable : surroundings.Durable) {error : StoreError}
    (delivers : surroundings.answer world (.deliver record) = (.ok (), delivered))
    (refuses : surroundings.answer delivered (.markSent record.id now) = (.error error, after)) :
    (surroundings.standing after record.id).record =
        (surroundings.standing world record.id).record ∧
      (surroundings.standing after record.id).delivery =
        (surroundings.standing world record.id).delivery := by
  rw [durable.unmarked refuses]
  exact kept_by_delivery delivers

/-- To forget the deliveries of a record changes nothing about the record, and remembers nothing new
of its deliveries. -/
theorem effect_of_clear (durable : surroundings.Durable) {event : Identifier}
    {reply : Except StoreError Unit}
    (clears : surroundings.answer world (.clearDelivery event) = (reply, after)) :
    (surroundings.standing after event).record = (surroundings.standing world event).record ∧
      ((surroundings.standing after event).delivery = none ∨
        (surroundings.standing after event).delivery =
          (surroundings.standing world event).delivery) := by
  cases reply with
  | ok _ =>
    rw [durable.cleared clears]
    exact ⟨rfl, Or.inl rfl⟩
  | error error =>
    rw [durable.uncleared clears]
    exact ⟨rfl, Or.inr rfl⟩

/-- To remember a delivery of a record changes nothing about the record. -/
theorem record_of_save (durable : surroundings.Durable) {delivery : Delivery}
    {reply : Except StoreError Unit}
    (saves : surroundings.answer world (.saveDelivery delivery) = (reply, after)) :
    (surroundings.standing after delivery.event).record =
      (surroundings.standing world delivery.event).record := by
  cases reply with
  | ok _ => rw [durable.saved saves]
  | error error => rw [durable.unsaved saves]

variable (surroundings policy now) in
/-- A counter of the report counts a change of what is held of a record, as long as what is
exchanged is accepted: the run through a record adds one to it if the change has taken place, and
nothing otherwise. -/
def Counts (accepted : Exchange → Prop) (counter : Report → Nat)
    (change : Standing → Standing → Bool) : Prop :=
  ∀ {record : EventRecord} {report : Report} {world : World} {exchanges : List Exchange}
    {outcome : TickOutcome} {after : World} {final : Report},
    Handled surroundings.answer policy now record (surroundings.standing world record.id).delivery
      report world exchanges (outcome, after) →
    (surroundings.standing world record.id).record = some record → record.status = .pending →
    (∀ exchange ∈ exchanges, accepted exchange) → outcome.report? = some final →
      counter final = counter report + if change (surroundings.standing world record.id)
        (surroundings.standing after record.id) then 1 else 0

/-- The records that are counted as sent are those that become sent. This holds whatever the
requests are answered, also when the store fails after the mark. -/
theorem counts_sent (durable : surroundings.Durable) :
    Counts surroundings policy now (fun _ => True) Report.sent Standing.becomesSent := by
  intro record report world exchanges outcome after final handled stored pending _ reported
  cases handled with
  | deferred waits =>
    obtain rfl := Option.some.inj reported
    rw [Standing.becomesSent_of_kept rfl]
    rfl
  | sent fresh delivers marks =>
    obtain rfl := Option.some.inj reported
    rw [(sent_by_mark stored pending delivers marks).1]
    rfl
  | sentAgain known delivers marks clears =>
    obtain rfl := report_endedBy reported
    rw [Standing.becomesSent_congr (effect_of_clear durable clears).1,
      (sent_by_mark stored pending delivers marks).1]
    rfl
  | unmarked delivers refuses =>
    rw [Standing.becomesSent_of_kept (kept_by_refused_mark durable delivers refuses).1]
    split at reported
    · obtain rfl := Option.some.inj reported
      rfl
    · obtain rfl := Option.some.inj reported
      rfl
  | failed due fails remembered saves =>
    obtain rfl := report_endedBy reported
    have saved := record_of_save durable saves
    rw [RetryPolicy.event_of_recordFailure? remembered] at saved
    rw [Standing.becomesSent_of_kept (saved.trans (kept_by_delivery fails).1)]
    rfl
  | crashed fails beyond => cases reported

/-- Whether an exchange is no refusal to remember a delivery. -/
def NoRefusedSave (exchange : Exchange) : Prop :=
  ∀ delivery error, exchange ≠ ⟨.saveDelivery delivery, .error error⟩

/-- Whether an exchange refuses a save is seen from its request and its answer. -/
instance (exchange : Exchange) : Decidable (NoRefusedSave exchange) :=
  match exchange with
  | ⟨.saveDelivery delivery, .error error⟩ => .isFalse fun none => none delivery error rfl
  | ⟨.saveDelivery _, .ok _⟩ | ⟨.loadPending, _⟩ | ⟨.loadDeliveries, _⟩ | ⟨.deliver _, _⟩
  | ⟨.markSent .., _⟩ | ⟨.clearDelivery _, _⟩ => .isTrue (by rintro _ _ ⟨⟩)

/-- The records that are counted as parked are those whose delivery becomes parked, as long as every
delivery can be remembered. -/
theorem counts_parked (durable : surroundings.Durable) :
    Counts surroundings policy now NoRefusedSave Report.parked Standing.becomesParked := by
  intro record report world exchanges outcome after final handled stored pending accepted reported
  cases handled with
  | deferred waits =>
    obtain rfl := Option.some.inj reported
    rw [Standing.becomesParked_of_kept rfl]
    rfl
  | sent fresh delivers marks =>
    obtain rfl := Option.some.inj reported
    rw [Standing.becomesParked_of_kept (sent_by_mark stored pending delivers marks).2]
    rfl
  | sentAgain known delivers marks clears =>
    obtain rfl := report_endedBy reported
    have kept := (sent_by_mark stored pending delivers marks).2
    rcases (effect_of_clear durable clears).2 with forgotten | unchanged
    · rw [Standing.becomesParked_of_none forgotten]
      rfl
    · rw [Standing.becomesParked_of_kept (unchanged.trans kept)]
      rfl
  | unmarked delivers refuses =>
    rw [Standing.becomesParked_of_kept (kept_by_refused_mark durable delivers refuses).2]
    split at reported
    · obtain rfl := Option.some.inj reported
      rfl
    · obtain rfl := Option.some.inj reported
      rfl
  | @failed due delivered after failure delivery reply fails remembered saves =>
    obtain rfl := report_endedBy reported
    cases reply with
    | error error => exact absurd rfl (accepted _ (List.mem_cons_of_mem _ List.mem_cons_self) _ _)
    | ok _ =>
      have saved := durable.saved saves
      rw [RetryPolicy.event_of_recordFailure? remembered] at saved
      rw [Standing.becomesParked_of_due due (congrArg Standing.delivery saved)]
  | crashed fails beyond => cases reported

/-! ## All records of a run -/

/-- Where nothing has happened to records, none of them is counted. -/
theorem countP_of_kept {change : Standing → Standing → Bool}
    (changeless : ∀ standing, change standing standing = false) {records : List EventRecord}
    {world after : World} (kept : ∀ record ∈ records,
      surroundings.standing after record.id = surroundings.standing world record.id) :
    records.countP (fun record => change (surroundings.standing world record.id)
      (surroundings.standing after record.id)) = 0 := by
  rw [List.countP_eq_zero]
  intro record member
  rw [kept record member, changeless]
  exact Bool.false_ne_true

/-- Where nothing has happened to records yet, it makes no difference from when on they are
counted. -/
theorem countP_from_kept {change : Standing → Standing → Bool} {records : List EventRecord}
    {world middle after : World} (kept : ∀ record ∈ records,
      surroundings.standing middle record.id = surroundings.standing world record.id) :
    records.countP (fun record => change (surroundings.standing middle record.id)
      (surroundings.standing after record.id)) =
    records.countP fun record => change (surroundings.standing world record.id)
      (surroundings.standing after record.id) := by
  apply List.countP_congr
  intro record member
  rw [kept record member]

/-- A run counts the records for which the change has taken place.

Induct over the records. The identifiers differ, so nothing happens to a record before the run comes
to it and nothing after that. When the run stops at a record, nothing happens to the later ones. -/
theorem counts_through {accepted : Exchange → Prop} {counter : Report → Nat}
    {change : Standing → Standing → Bool}
    (counts : Counts surroundings policy now accepted counter change)
    (changeless : ∀ standing, change standing standing = false)
    {records : List EventRecord} (distinct : (records.map EventRecord.id).Nodup)
    {deliveries : Table Delivery.event} {report final : Report} {world after : World}
    {outcome : TickOutcome}
    (stored : ∀ record ∈ records, (surroundings.standing world record.id).record = some record ∧
      record.status = .pending)
    (recalled : ∀ record ∈ records, deliveries.find? record.id =
      (surroundings.standing world record.id).delivery)
    (executed : (through policy now records deliveries report).execute surroundings.answer world =
      (outcome, after))
    (allAccepted : ∀ exchange ∈
      (through policy now records deliveries report).exchanges surroundings.answer world,
        accepted exchange)
    (reported : outcome.report? = some final) :
    counter final = counter report + records.countP fun record =>
      change (surroundings.standing world record.id) (surroundings.standing after record.id) := by
  induction records generalizing deliveries report world with
  | nil =>
    obtain ⟨rfl, rfl⟩ := Prod.mk.inj executed
    obtain rfl := Option.some.inj reported
    rfl
  | cons first rest inductionHypothesis =>
    obtain ⟨apart, restDistinct⟩ := List.nodup_cons.mp distinct
    obtain ⟨⟨firstStored, firstPending⟩, restStored⟩ := List.forall_mem_cons.mp stored
    obtain ⟨firstRecalled, restRecalled⟩ := List.forall_mem_cons.mp recalled
    have restForeign : ∀ record ∈ rest, record.id ≠ first.id := by
      intro record member same
      exact apart (same ▸ List.mem_map_of_mem member)
    have handled := handled_single surroundings.answer policy now first report world deliveries
    rw [firstRecalled] at handled
    generalize firstExecuted : (through policy now [first] deliveries report).execute
      surroundings.answer world = ended at handled
    obtain ⟨ending, next⟩ := ended
    -- nothing happens to the later records while the run is at the first one
    have restKept : ∀ record ∈ rest, surroundings.standing next record.id =
        surroundings.standing world record.id := by
      intro record member
      apply surroundings.frame_through firstExecuted
      exact List.forall_mem_singleton.mpr (restForeign record member).symm
    rw [through_cons] at executed allAccepted
    rw [List.countP_cons]
    by_cases completes : ∃ middle, ending = .completed middle
    · obtain ⟨middle, rfl⟩ := completes
      rw [execute_andThen firstExecuted] at executed
      rw [exchanges_andThen firstExecuted] at allAccepted
      obtain ⟨firstAccepted, restAccepted⟩ := List.forall_mem_append.mp allAccepted
      have counted := counts handled firstStored firstPending firstAccepted rfl
      have stillStored : ∀ record ∈ rest, (surroundings.standing next record.id).record =
          some record ∧ record.status = .pending := by
        intro record member
        rw [restKept record member]
        exact restStored record member
      have stillRecalled : ∀ record ∈ rest, (deliveries.erase first.id).find? record.id =
          (surroundings.standing next record.id).delivery := by
        intro record member
        rw [Table.find?_erase, if_neg (restForeign record member), restKept record member]
        exact restRecalled record member
      have others :=
        inductionHypothesis restDistinct stillStored stillRecalled executed restAccepted
      have firstKept := surroundings.frame_through executed restForeign
      rw [others, counted, countP_from_kept restKept, firstKept]
      omega
    · have stopped : ∀ middle, ((through policy now [first] deliveries report).execute
          surroundings.answer world).1 ≠ .completed middle := by
        rw [firstExecuted]
        exact not_exists.mp completes
      rw [execute_andThen_of_stopped stopped, firstExecuted] at executed
      rw [exchanges_andThen_of_stopped stopped] at allAccepted
      obtain ⟨rfl, rfl⟩ := Prod.mk.inj executed
      have counted := counts handled firstStored firstPending allAccepted reported
      rw [counted, countP_of_kept changeless restKept, Nat.zero_add]

end

/-! ## All identifiers -/

/-- What has changed for some of the records and for nothing else, each of them once, is as many
identifiers. -/
theorem encard_changed {change : Standing → Standing → Bool}
    (changeless : ∀ standing, change standing standing = false)
    {records : List EventRecord} (distinct : (records.map EventRecord.id).Nodup)
    {before after : Identifier → Standing}
    (frame : ∀ event, (∀ record ∈ records, record.id ≠ event) → after event = before event) :
    {event | change (before event) (after event) = true}.encard =
      records.countP fun record => change (before record.id) (after record.id) := by
  have named : {event | change (before event) (after event) = true} =
      (((records.map EventRecord.id).filter fun event =>
        change (before event) (after event)).toFinset : Set Identifier) := by
    ext event
    rw [List.coe_toFinset, Set.mem_ofPred_eq, Set.mem_ofPred_eq, List.mem_filter]
    refine ⟨?_, And.right⟩
    intro changed
    refine ⟨?_, changed⟩
    by_contra foreign
    rw [frame event, changeless] at changed
    · cases changed
    · intro record member same
      exact foreign (same ▸ List.mem_map_of_mem member)
  rw [named, Set.encard_coe_eq_coe_finsetCard, List.toFinset_card_of_nodup (distinct.filter _),
    ← List.countP_eq_length_filter, List.countP_map]
  rfl

/-- Where nothing has changed, nothing is counted. -/
theorem encard_unchanged {change : Standing → Standing → Bool}
    (changeless : ∀ standing, change standing standing = false)
    {before after : Identifier → Standing}
    (same : ∀ event, after event = before event) :
    {event | change (before event) (after event) = true}.encard = 0 :=
  @encard_changed change changeless [] List.nodup_nil before after fun event _ => same event

/-! ## The whole run -/

section

variable {World : Type} {surroundings : Surroundings World} {policy : RetryPolicy}
  {now : Timestamp} {world after : World} {outcome : TickOutcome} {report : Report}

/-- To load something changes nothing. -/
theorem kept_by_load {request : Request} {reply : request.Answer} (loads : request.subject? = none)
    (answered : surroundings.answer world request = (reply, after)) (event : Identifier) :
    surroundings.standing after event = surroundings.standing world event := by
  have kept := surroundings.frame world request event (loads ▸ (Option.some_ne_none event).symm)
  rwa [answered] at kept

/-- A leading run counts the identifiers under which the change has taken place. Loading changes
nothing, and afterwards each record of the list is about an identifier of its own. -/
theorem counts_tick (durable : surroundings.Durable) {accepted : Exchange → Prop}
    {counter : Report → Nat} {change : Standing → Standing → Bool}
    (counts : Counts surroundings policy now accepted counter change)
    (changeless : ∀ standing, change standing standing = false)
    (fromZero : ∀ considered, counter { Report.empty with considered } = 0)
    (executed : (tick policy true now).execute surroundings.answer world = (outcome, after))
    (allAccepted : ∀ exchange ∈ (tick policy true now).exchanges surroundings.answer world,
      accepted exchange)
    (reported : outcome.report? = some report) :
    {event | change (surroundings.standing world event)
      (surroundings.standing after event) = true}.encard = counter report := by
  generalize lists : surroundings.answer world .loadPending = first
  obtain ⟨reply, middle⟩ := first
  have middleKept := kept_by_load rfl lists
  cases reply with
  | error error =>
    rw [execute_unlisted policy now lists] at executed
    obtain ⟨rfl, rfl⟩ := Prod.mk.inj executed
    obtain rfl := Option.some.inj reported
    rw [encard_unchanged changeless middleKept]
    exact congrArg Nat.cast (fromZero 0).symm
  | ok pending =>
    generalize recalls : surroundings.answer middle .loadDeliveries = second
    obtain ⟨reply, loaded⟩ := second
    have loadedKept : ∀ event, surroundings.standing loaded event =
        surroundings.standing world event := by
      intro event
      exact (kept_by_load rfl recalls event).trans (middleKept event)
    cases reply with
    | error error =>
      rw [execute_unrecalled policy now lists recalls] at executed
      obtain ⟨rfl, rfl⟩ := Prod.mk.inj executed
      obtain rfl := Option.some.inj reported
      rw [encard_unchanged changeless loadedKept]
      exact congrArg Nat.cast (fromZero 0).symm
    | ok deliveries =>
      obtain ⟨goesOn, exchanged⟩ := execute_loaded policy now lists recalls
      rw [goesOn] at executed
      rw [exchanged] at allAccepted
      have onWay := (List.forall_mem_cons.mp (List.forall_mem_cons.mp allAccepted).2).2
      have listedAs := surroundings.loaded world pending
      rw [lists] at listedAs
      obtain ⟨distinct, stored⟩ := listedAs rfl
      have ordered : ((MemoryStore.inOrder pending).map EventRecord.id).Nodup :=
        ((MemoryStore.inOrder_perm pending).map EventRecord.id).nodup_iff.mpr distinct
      have storedLoaded : ∀ record ∈ MemoryStore.inOrder pending,
          (surroundings.standing loaded record.id).record = some record ∧
            record.status = .pending := by
        intro record member
        rw [loadedKept]
        exact stored record ((MemoryStore.mem_inOrder pending record).mp member)
      have recalledLoaded : ∀ record ∈ MemoryStore.inOrder pending,
          deliveries.find? record.id = (surroundings.standing loaded record.id).delivery := by
        intro record _
        rw [loadedKept, ← middleKept]
        exact durable.recalled recalls record.id
      have total := counts_through counts changeless ordered storedLoaded recalledLoaded executed
        onWay reported
      have changed := encard_changed changeless ordered (fun event foreign =>
        surroundings.frame_through executed foreign)
      rw [fromZero, Nat.zero_add] at total
      simp only [loadedKept] at total changed
      rw [changed, total]

end

/-- What the counters of the report of a leading run say.

When one of the loads fails, the run is aborted and reports nothing. Otherwise it considers all the
pending records that it has loaded. When it completes, each of them has been counted as sent, failed
or deferred. When it is aborted, this happens at one of them, and the records before that one have
been counted. The record itself has been exactly when the call that failed came after it was
counted, to forget or to remember its deliveries. Never are more records counted as parked than as
failed.

In surroundings that hold what they have accepted, exactly as many records have become sent as are
counted as sent, whatever else has failed, and exactly as many deliveries have become parked as are
counted as parked, unless the store refused to remember one. -/
theorem counters_account (policy : RetryPolicy) (now : Timestamp) :
    (∀ (World : Type) (answer : World → (request : Request) → request.Answer × World)
      (world middle : World),
      (∀ error, answer world .loadPending = (.error error, middle) →
        (tick policy true now).execute answer world = (.aborted .empty error, middle)) ∧
      ∀ pending, answer world .loadPending = (.ok pending, middle) → ∀ loaded,
        (∀ error, answer middle .loadDeliveries = (.error error, loaded) →
          (tick policy true now).execute answer world = (.aborted .empty error, loaded)) ∧
        ∀ deliveries, answer middle .loadDeliveries = (.ok deliveries, loaded) →
          (∀ report, ((tick policy true now).execute answer world).1 = .completed report →
            report.considered = pending.length ∧
            report.considered = report.sent + report.failed + report.deferred ∧
            report.parked ≤ report.failed) ∧
          ∀ report error, ((tick policy true now).execute answer world).1 = .aborted report error →
            report.considered = pending.length ∧ report.parked ≤ report.failed ∧
            ∃ before record later write,
              MemoryStore.inOrder pending = before ++ record :: later ∧
              AbortedAt answer policy now deliveries
                { Report.empty with considered := pending.length } loaded before record report
                  error ∧
              FailsOn write record.id error ((tick policy true now).exchanges answer world) ∧
              before.length ≤ report.sent + report.failed + report.deferred ∧
              report.sent + report.failed + report.deferred ≤ before.length + 1 ∧
              (report.sent + report.failed + report.deferred = before.length + 1 ↔
                write = .clearDelivery ∨ write = .saveDelivery)) ∧
    ∀ (World : Type) (surroundings : Surroundings World), surroundings.Durable →
      ∀ world outcome after report,
        (tick policy true now).execute surroundings.answer world = (outcome, after) →
        outcome.report? = some report →
          {event | (surroundings.standing world event).becomesSent
            (surroundings.standing after event) = true}.encard = report.sent ∧
          ((∀ exchange ∈ (tick policy true now).exchanges surroundings.answer world,
              NoRefusedSave exchange) →
            {event | (surroundings.standing world event).becomesParked
              (surroundings.standing after event) = true}.encard = report.parked) := by
  constructor
  · intro World answer world middle
    refine ⟨fun error fails => execute_unlisted policy now fails, ?_⟩
    intro pending lists loaded
    refine ⟨fun error fails => execute_unrecalled policy now lists fails, ?_⟩
    intro deliveries recalls
    have ordered : (MemoryStore.inOrder pending).length = pending.length :=
      (MemoryStore.inOrder_perm pending).length_eq
    obtain ⟨executed, exchanged⟩ := execute_loaded policy now lists recalls
    rw [executed, exchanged]
    obtain ⟨completes, aborts⟩ := advances_through answer policy now (MemoryStore.inOrder pending)
      deliveries { Report.empty with considered := pending.length } loaded
    constructor
    · intro report completed
      obtain ⟨considered, counted, parked⟩ := (completes report completed).of_begun
      rw [counted, ordered]
      exact ⟨considered, considered, parked⟩
    · intro report error aborted
      obtain ⟨before, record, later, write, cut, abortedAt, fails, advances⟩ :=
        aborts report error aborted
      obtain ⟨considered, counted, parked⟩ := advances.of_begun
      refine ⟨considered, parked, before, record, later, write, cut, abortedAt,
        fails.after [_, _], ?_⟩
      rw [counted]
      cases write with
      | markSent => simp [Write.counted]
      | clearDelivery => simp [Write.counted]
      | saveDelivery => simp [Write.counted]
  · intro World surroundings durable world outcome after report executed reported
    constructor
    · exact counts_tick durable (counts_sent durable)
        (fun _ => Standing.becomesSent_of_kept rfl) (fun _ => rfl) executed
        (fun _ _ => trivial) reported
    · intro accepted
      exact counts_tick durable (counts_parked durable)
        (fun _ => Standing.becomesParked_of_kept rfl) (fun _ => rfl) executed accepted reported

/-- The last write of an aborted run is the one that failed. -/
theorem FailsOn.last {write : Write} {event : Identifier} {error : StoreError}
    {exchanges : List Exchange} (fails : FailsOn write event error exchanges) :
    exchanges.getLast?.bind (·.request.write?) = some (write, event) := by
  obtain ⟨earlier, failing, rfl, writes, _⟩ := fails
  rw [List.getLast?_concat]
  exact writes

/-- Of the four pending records of the site with records of different fates, a completed run counts
two that have become sent, one that has failed and is parked, and one that still waits. When the
store is down as the failure of the second record is to be remembered, one is counted as sent, that
one as failed and parked, and no others. -/
theorem mixed_counted :
    (∃ after, Site.mixed.dispatch Site.plainSending Site.twice true default =
        (.completed ⟨4, 2, 1, 1, 1⟩, after) ∧
      {event | (Site.mixed.standing event).becomesSent (after.standing event) = true}.encard = 2 ∧
      {event | (Site.mixed.standing event).becomesParked (after.standing event) = true}.encard =
        1) ∧
    ((tick Site.twice true default).execute (unsavable (.storage "down")).answer Site.mixed).1 =
      .aborted ⟨4, 1, 1, 0, 1⟩ (.storage "down") ∧
    FailsOn .saveDelivery (EventRecord.numbered 2).id (.storage "down")
      ((tick Site.twice true default).exchanges (unsavable (.storage "down")).answer
        Site.mixed) := by
  constructor
  · obtain ⟨executed, exchanged⟩ := execute_loaded Site.twice default loadPending_mixed rfl
    rw [order_mixed] at executed exchanged
    obtain ⟨sent, parked⟩ := (counters_account Site.twice default).2 Site
      (Site.surroundings Site.plainSending) (Site.durable _) Site.mixed
        (.completed ⟨4, 2, 1, 1, 1⟩) _ _ executed rfl
    refine ⟨_, executed, sent, parked ?_⟩
    have remembered : ∀ exchange ∈ (tick Site.twice true default).exchanges
        (Site.answer Site.plainSending) Site.mixed, NoRefusedSave exchange := by
      rw [exchanged]
      decide
    exact remembered
  · have loadsPending : (unsavable (.storage "down")).answer Site.mixed .loadPending = _ :=
      loadPending_mixed
    obtain ⟨executed, exchanged⟩ := execute_loaded Site.twice default loadsPending rfl
    rw [order_mixed] at executed exchanged
    have aborted := congrArg Prod.fst executed
    obtain ⟨_, loads⟩ := (counters_account Site.twice default).1 Site _ Site.mixed _
    obtain ⟨_, goesOn⟩ := loads _ loadsPending _
    obtain ⟨_, _, before, record, later, write, _, _, fails, _⟩ :=
      (goesOn _ rfl).2 ⟨4, 1, 1, 0, 1⟩ (.storage "down") aborted
    have last := fails.last
    rw [exchanged] at last
    obtain ⟨rfl, same⟩ := Prod.mk.inj (Option.some.inj last)
    have second : record.id = (EventRecord.numbered 2).id := same.symm
    rw [second] at fails
    exact ⟨aborted, fails⟩

end Run

end Outbox
