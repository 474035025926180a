import Outbox.Proofs.Cluster.Deliveries

/-!
# Parked records are pending

What operators see as parked should be a pending record. A run decides by what it has loaded, and
writes that a delivery has failed without a second look at the record. When leadership passes from
one dispatcher to another, the run of the old one is still under way, and then the record may have
been sent by the new one in between. So the parked list can be wrong, but only about a record for
which two runs contended: one of them might still write a failure and the other one might still mark
the record as sent. As long as that does not happen, every parked record is pending, whatever
producers, operators and retention jobs do and whatever fails.

`Cluster.Truthful` is the invariant behind this. A record that a run may still write a failure for
is pending, and a parked record is left alone by every run that has loaded the deliveries.
-/

namespace Outbox

open Calendar

namespace Cluster

/-- Whether two runs contend for a record: one of them has loaded the pending records and may still
remember a failed delivery of this one, and the other one has loaded everything and may still ask
for something of concern. -/
def Contended (cluster : Cluster) (event : Identifier) (concern : Request → Prop) : Prop :=
  ∃ first second failing other, first ≠ second ∧
    cluster.tasks first = some failing ∧ cluster.tasks second = some other ∧
    failing.run.Listed ∧ failing.run.May (·.write? = some (.saveDelivery, event)) ∧
    other.run.Loaded ∧ other.run.May concern

/-- Whether a move begins a run only under a given number, so that a run that is begun breaks off
the one before and no two runs overlap. -/
def Move.RunsAs (number : Nat) : Move → Prop
  | .start other .. => other = number
  | _ => True

/-- What holds of a record as long as no two runs contend for it. -/
structure Truthful (cluster : Cluster) (event : Identifier) (concern : Request → Prop) : Prop where
  staged : cluster.Staged
  /-- It is pending while a run that has loaded the pending records may write a failure for it. -/
  saving : ∀ number task, cluster.tasks number = some task → task.run.Listed →
    task.run.May (·.write? = some (.saveDelivery, event)) → cluster.IsPending event
  /-- It is pending while it is parked, and no run that has loaded the deliveries asks for anything
  of concern. -/
  parked : ∀ delivery, cluster.deliveries.find? event = some delivery → delivery.parked = true →
    cluster.IsPending event ∧ ∀ number task, cluster.tasks number = some task →
      task.run.Loaded → task.run.Only (¬ concern ·)

section

variable {cluster : Cluster} {event : Identifier} {concern : Request → Prop} {number : Nat}
  {task : Task} {move : Move} {moves : List Move} {delivery : Delivery}

/-- Records are loaded as pending only if they are stored as pending. -/
theorem isPending_of_answer {sending : Sending} {pending : List EventRecord}
    (answered : (cluster.site.answer sending .loadPending).1 = .ok pending)
    {record : EventRecord} (member : record ∈ pending) : cluster.IsPending record.id :=
  ⟨record, ((Site.surroundings sending).loaded cluster.site pending answered).2 record member⟩

/-- Deliveries are loaded as they are stored. -/
theorem deliveries_of_answer {site : Site} {sending : Sending} {loaded : Table Delivery.event}
    (answered : (site.answer sending .loadDeliveries).1 = .ok loaded) :
    loaded = site.store.deliveries := by
  change (site.call .deliveryStates).1 = .ok loaded at answered
  rcases site.call_cases .deliveryStates with ⟨error, faults, failed⟩ | ⟨faults, reached⟩
  · rw [failed] at answered
    cases answered
  · rw [reached] at answered
    exact (Except.ok.inj ((site.store.whenAvailable_ok_iff _ loaded).mp answered).2).symm

/-! ## Single moves -/

/-- A record that a run may write a failure for after a move was pending before the move: either the
run might do so before as well, or it has just loaded the record as pending. -/
theorem Truthful.pending_of_saves (truthful : cluster.Truthful event concern)
    (found : (cluster.perform move).tasks number = some task) (listed : task.run.Listed)
    (saves : task.run.May (·.write? = some (.saveDelivery, event))) :
    cluster.IsPending event := by
  rcases task_perform cluster move found with
    before | ⟨_, isLeader, now, begun⟩ | ⟨names, request, next, _, waiting, answered⟩
  · exact truthful.saving number task before listed saves
  · rw [begun] at listed saves
    cases isLeader with
    | false => exact saves.elim
    | true => exact absurd rfl listed.1
  · rw [answered] at listed saves
    have stage : (Run.ask request next).Stage := truthful.staged number _ waiting
    by_cases past : request = .loadPending
    · -- The run knows the record only if it was just loaded as pending.
      subst past
      cases stage with
      | beginning policy now =>
        cases loaded : (cluster.site.answer (task.dispatcher.sending names) .loadPending).1 with
        | error error =>
          rw [loaded] at saves
          exact saves.elim
        | ok pending =>
          rw [loaded] at saves
          by_contra absent
          have foreign : ∀ record ∈ pending, record.id ≠ event := by
            intro record member same
            exact absent (same ▸ isPending_of_answer loaded member)
          rcases saves with writes | ⟨answer, saves⟩
          · cases writes
          · have silent := Run.only_withDeliveries policy now foreign answer
            refine Run.not_may_iff.mpr (silent.mono ?_) saves
            intro later apart writes
            exact apart (Request.subject_of_write writes)
      | loaded _ loaded _ => exact absurd rfl loaded.1
    · exact truthful.saving number _ waiting (stage.listed_of_ne past) (.of_resume saves)

/-- A record that a run may write a failure for stays pending when no other run contends for it. A
run that marks the record as sent itself is through with it. -/
theorem Truthful.saving_perform (truthful : cluster.Truthful event concern)
    (marks : ∀ moment, concern (.markSent event moment))
    (uncontended : ¬ cluster.Contended event concern)
    (found : (cluster.perform move).tasks number = some task) (listed : task.run.Listed)
    (saves : task.run.May (·.write? = some (.saveDelivery, event))) :
    (cluster.perform move).IsPending event := by
  have pending := truthful.pending_of_saves found listed saves
  rcases pending.perform move with
    stays | ⟨marker, names, dispatcher, moment, next, rfl, waiting⟩
  · exact stays
  · exfalso
    obtain ⟨loaded, tidy⟩ := (truthful.staged marker _ waiting).of_subject nofun
    rw [tasks_advance waiting] at found
    by_cases same : number = marker
    · -- After marking a record a run may at most forget its deliveries.
      rw [same, Function.update_self] at found
      obtain rfl := Option.some.inj found
      refine Run.not_may_iff.mpr (((tidy _).2 .markSent event rfl).mono ?_) saves
      intro later clears writes
      obtain ⟨_, rfl⟩ := clears (Request.subject_of_write writes)
      cases writes
    · rw [Function.update_of_ne same] at found
      exact uncontended ⟨number, marker, task, _, same, found, waiting, listed, saves, loaded,
        Or.inl (marks moment)⟩

/-- Every run that has loaded the deliveries after a move leaves alone a record that was parked
before the move: it did so before, or it has just loaded that the record is parked. -/
theorem Truthful.silent_perform (truthful : cluster.Truthful event concern)
    (about : ∀ request, concern request → request.subject? = some event)
    (known : cluster.deliveries.find? event = some delivery) (parked : delivery.parked = true)
    (found : (cluster.perform move).tasks number = some task) (loaded : task.run.Loaded) :
    task.run.Only (¬ concern ·) := by
  obtain ⟨_, silent⟩ := truthful.parked delivery known parked
  rcases task_perform cluster move found with
    before | ⟨_, isLeader, now, begun⟩ | ⟨names, request, next, _, waiting, answered⟩
  · exact silent number task before loaded
  · rw [begun] at loaded ⊢
    exact loaded.only_tick
  · rw [answered] at loaded ⊢
    have stage : (Run.ask request next).Stage := truthful.staged number _ waiting
    cases stage with
    | beginning policy now => exact loaded.only_withPending
    | listed policy now pending distinct =>
      cases states : (cluster.site.answer (task.dispatcher.sending names) .loadDeliveries).1 with
      | error error => trivial
      | ok deliveries =>
        have stored : deliveries.find? event = some delivery :=
          deliveries_of_answer states ▸ known
        apply (Run.only_withDeliveries_parked policy now distinct stored parked).mono
        intro later apart concerned
        exact apart (about later concerned)
    | loaded _ before _ => exact (silent number _ waiting before).2 _

/-- A run that remembers a failed delivery writes it for a pending record, has no more to do with
the record itself, and is the only one that has when no two runs contend for it. -/
theorem Truthful.parked_remembered (truthful : cluster.Truthful event concern)
    (about : ∀ request, concern request → request.subject? = some event)
    (uncontended : ¬ cluster.Contended event concern) {saver : Nat} {dispatcher : Dispatcher}
    {next : Except StoreError Unit → Run} (named : delivery.event = event)
    (waiting : cluster.tasks saver = some ⟨dispatcher, .ask (.saveDelivery delivery) next⟩)
    (names : CategoryNames) :
    (cluster.perform (.advance saver names)).IsPending event ∧ ∀ number task,
      (cluster.perform (.advance saver names)).tasks number = some task → task.run.Loaded →
        task.run.Only (¬ concern ·) := by
  obtain ⟨saverLoaded, tidy⟩ := (truthful.staged saver _ waiting).of_subject nofun
  have saves : (Run.ask (.saveDelivery delivery) next).May
      (·.write? = some (.saveDelivery, event)) := Or.inl (named ▸ rfl)
  constructor
  · have pending := truthful.saving saver _ waiting saverLoaded.listed saves
    rcases pending.perform (.advance saver names) with stays | ⟨marker, _, _, _, _, same, marking⟩
    · exact stays
    · obtain ⟨rfl, _⟩ := Move.advance.inj same
      rw [waiting] at marking
      cases marking
  · intro number task found loaded
    rw [tasks_advance waiting] at found
    by_cases same : number = saver
    · rw [same, Function.update_self] at found
      obtain rfl := Option.some.inj found
      apply ((tidy _).2 .saveDelivery delivery.event rfl).mono
      intro later clears concerned
      cases (clears (named ▸ about later concerned)).1
    · rw [Function.update_of_ne same] at found
      apply Run.not_may_iff.mp
      intro concerned
      exact uncontended ⟨saver, number, _, task, Ne.symm same, waiting, found,
        saverLoaded.listed, saves, loaded, concerned⟩

/-- A parked record stays pending and is left alone when no two runs contend for it. If the entry
has just been written, then no other run could still ask for anything of concern. -/
theorem Truthful.parked_perform (truthful : cluster.Truthful event concern)
    (about : ∀ request, concern request → request.subject? = some event)
    (marks : ∀ moment, concern (.markSent event moment))
    (uncontended : ¬ cluster.Contended event concern)
    (known : (cluster.perform move).deliveries.find? event = some delivery)
    (parked : delivery.parked = true) :
    (cluster.perform move).IsPending event ∧ ∀ number task,
      (cluster.perform move).tasks number = some task → task.run.Loaded →
        task.run.Only (¬ concern ·) := by
  cases deliveryStep_perform cluster event move with
  | kept _ same =>
    rw [same] at known
    obtain ⟨pending, silent⟩ := truthful.parked delivery known parked
    constructor
    · rcases pending.perform move with
        stays | ⟨marker, names, dispatcher, moment, next, rfl, waiting⟩
      · exact stays
      · obtain ⟨loaded, _⟩ := (truthful.staged marker _ waiting).of_subject nofun
        exact absurd (marks moment) (silent marker _ waiting loaded).1
    · intro number task found loaded
      exact truthful.silent_perform about known parked found loaded
  | remembered saver names dispatcher written next waiting named _ =>
    exact truthful.parked_remembered about uncontended named waiting names
  | forgotten _ _ _ _ _ gone =>
    rw [gone] at known
    cases known
  | requeued now former _ _ left =>
    rw [left] at known
    obtain rfl := Option.some.inj known
    cases parked
  | deleted _ _ _ _ _ gone =>
    rw [gone] at known
    cases known

/-! ## Runs -/

/-- The invariant is kept by every move before which no two runs contend. -/
theorem Truthful.perform (truthful : cluster.Truthful event concern)
    (about : ∀ request, concern request → request.subject? = some event)
    (marks : ∀ moment, concern (.markSent event moment))
    (uncontended : ¬ cluster.Contended event concern) (move : Move) :
    (cluster.perform move).Truthful event concern where
  staged := truthful.staged.perform move
  saving _ _ found listed saves := truthful.saving_perform marks uncontended found listed saves
  parked _ known parked := truthful.parked_perform about marks uncontended known parked

/-- The invariant holds in every run of a cluster in which no two runs have contended.

Induct over the moves from the last one backward. -/
theorem truthful_or_contended (dispatchers : List Dispatcher) (moves : List Move)
    (about : ∀ request, concern request → request.subject? = some event)
    (marks : ∀ moment, concern (.markSent event moment)) :
    ((opened dispatchers).run moves).Truthful event concern ∨
      ∃ done, done <+: moves ∧ ((opened dispatchers).run done).Contended event concern := by
  induction moves using List.reverseRecOn with
  | nil =>
    left
    constructor
    · intro number task found
      cases found
    · intro number task found
      cases found
    · intro delivery known
      cases known
  | append_singleton moves move inductionHypothesis =>
    rcases inductionHypothesis with truthful | ⟨done, initial, contended⟩
    · by_cases contended : ((opened dispatchers).run moves).Contended event concern
      · exact Or.inr ⟨moves, List.prefix_append moves [move], contended⟩
      · left
        rw [run_append]
        exact truthful.perform about marks contended move
    · exact Or.inr ⟨done, initial.trans (List.prefix_append moves [move]), contended⟩

/-! ## Runs that do not overlap -/

/-- A move that begins runs under one number only begins none under any other one. What is under way
under another number was there before, or has just been answered. -/
theorem tasks_of_runsAs (runs : move.RunsAs number) {other : Nat} (differs : other ≠ number)
    (idle : cluster.tasks other = none) : (cluster.perform move).tasks other = none := by
  cases move with
  | start begun dispatcher isLeader now =>
    obtain rfl : begun = number := runs
    rw [perform]
    cases cluster.dispatchers[dispatcher]? with
    | none => exact idle
    | some _ => exact (Function.update_of_ne differs ..).trans idle
  | advance advanced names =>
    rw [perform]
    rcases waiting : cluster.tasks advanced with _ | ⟨dispatcher, _ | ⟨request, next⟩⟩
    · exact idle
    · exact idle
    · have apart : other ≠ advanced := by
        rintro rfl
        rw [idle] at waiting
        cases waiting
      exact (Function.update_of_ne apart ..).trans idle
  | commit work =>
    rw [perform]
    cases cluster.works work <;> exact idle
  | _ => exact idle

/-- When runs are begun under one number only, no two runs contend for anything. This is so where a
single dispatcher begins one run after the other. -/
theorem not_contended (dispatchers : List Dispatcher) (alone : ∀ move ∈ moves, move.RunsAs number)
    (event : Identifier) (concern : Request → Prop) :
    ¬ ((opened dispatchers).run moves).Contended event concern := by
  have only (other : Nat) (differs : other ≠ number) :
      ((opened dispatchers).run moves).tasks other = none := by
    induction moves using List.reverseRecOn with
    | nil => rfl
    | append_singleton moves move inductionHypothesis =>
      obtain ⟨earlier, latest⟩ := List.forall_mem_append.mp alone
      rw [run_append]
      exact tasks_of_runsAs (latest move List.mem_cons_self) differs (inductionHypothesis earlier)
  rintro ⟨first, second, _, _, differs, firstFound, secondFound, _⟩
  have firstIs : first = number := by
    by_contra other
    rw [only first other] at firstFound
    cases firstFound
  have secondIs : second = number := by
    by_contra other
    rw [only second other] at secondFound
    cases secondFound
  exact differs (firstIs.trans secondIs.symm)

/-- The invariant holds when runs do not overlap. -/
theorem truthful_alone (dispatchers : List Dispatcher) (alone : ∀ move ∈ moves, move.RunsAs number)
    (about : ∀ request, concern request → request.subject? = some event)
    (marks : ∀ moment, concern (.markSent event moment)) :
    ((opened dispatchers).run moves).Truthful event concern := by
  rcases truthful_or_contended dispatchers moves about marks with
    truthful | ⟨done, ⟨rest, rfl⟩, contended⟩
  · exact truthful
  · have aloneSoFar : ∀ move ∈ done, move.RunsAs number :=
      fun move member => alone move (List.mem_append_left rest member)
    exact absurd contended (not_contended dispatchers aloneSoFar event concern)

end

/-- A record that is parked is stored as pending, in every state that a cluster can reach, unless
two runs have contended for it: at some moment one of them might still remember a failed delivery of
the record while the other one might still mark it as sent. This holds of every entry of the parked
list and of every record that an operator succeeds in requeueing. Runs that do not overlap never
contend, so then the parked list is right without exception. -/
theorem parked_is_pending_or_contended (dispatchers : List Dispatcher) (moves : List Move) :
    (∀ entries, (((opened dispatchers).run moves).site.call .parked).1 = .ok entries →
      ∀ delivery ∈ entries, ((opened dispatchers).run moves).IsPending delivery.event ∨
        ∃ done, done <+: moves ∧ ((opened dispatchers).run done).Contended delivery.event
          (·.write? = some (.markSent, delivery.event))) ∧
    (∀ event now, (((opened dispatchers).run moves).site.call (.requeue event now)).1 = .ok true →
      ((opened dispatchers).run moves).IsPending event ∨
        ∃ done, done <+: moves ∧ ((opened dispatchers).run done).Contended event
          (·.write? = some (.markSent, event))) ∧
    ∀ number, (∀ move ∈ moves, move.RunsAs number) →
      ∀ entries, (((opened dispatchers).run moves).site.call .parked).1 = .ok entries →
        ∀ delivery ∈ entries, ((opened dispatchers).run moves).IsPending delivery.event := by
  have marks (event : Identifier) (moment : Timestamp) :
      (Request.markSent event moment).write? = some (.markSent, event) := rfl
  refine ⟨?_, ?_, ?_⟩
  · intro entries answered delivery member
    obtain ⟨known, parked⟩ := Site.parked_answered answered member
    exact (truthful_or_contended dispatchers moves (fun _ => Request.subject_of_write)
      (marks delivery.event)).imp_left fun truthful => (truthful.parked delivery known parked).1
  · intro event now accepted
    obtain ⟨delivery, known, parked, _⟩ := Site.requeue_accepted accepted
    exact (truthful_or_contended dispatchers moves (fun _ => Request.subject_of_write)
      (marks event)).imp_left fun truthful => (truthful.parked delivery known parked).1
  · intro number alone entries answered delivery member
    obtain ⟨known, parked⟩ := Site.parked_answered answered member
    have truthful := truthful_alone dispatchers alone (fun _ => Request.subject_of_write)
      (marks delivery.event)
    exact (truthful.parked delivery known parked).1

/-- A dispatcher that parks a record after its first failure. -/
def strictDispatcher : Dispatcher :=
  { plainDispatcher with policy := { RetryPolicy.immediate with maxAttempts := some 1 } }

/-- While a record is rejected, a run fails to deliver it. Before it can write so, leadership passes
on: the record is rejected no more, and another run loads it, delivers it and marks it as sent. Only
then the first run writes what it knows. -/
def handedOver : List Move :=
  let ask (number : Nat) : Move := .advance number fun _ => none
  let reject (failing : List Identifier) : Move := .disturb .none true none failing none
  [.save default, .start 0 0 true default, ask 0, ask 0, reject [default], ask 0, reject [],
    .start 1 0 true default, ask 1, ask 1, ask 1, ask 1, ask 0]

/-- After the handover the record is sent, and it is listed as parked all the same. Nothing removes
the entry, since a run never loads a sent record again. -/
theorem handed_over_record_parked :
    (((opened [strictDispatcher]).run handedOver).records.find? default).map EventRecord.status =
        some .sent ∧
      ((((opened [strictDispatcher]).run handedOver).site.call .parked).1.toOption.map
        fun entries => entries.map Delivery.event) = some [default] := by
  constructor
  · decide +kernel
  · decide +kernel

end Cluster

end Outbox
