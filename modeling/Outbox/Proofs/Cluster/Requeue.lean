import Outbox.Proofs.Cluster.Handover
import Outbox.Proofs.Relay

/-!
# A requeue is not lost

An operator may ask for another round of attempts for a parked record at any moment, also while a
run is under way that has loaded the deliveries before. Such a run has either loaded the record as
parked or parked it itself, and in both cases has no more to do with it. So it never writes its own
idea of the record over the requeue, and what the operator has asked for stays until a run tries the
record that has loaded the deliveries later. Until then every other requeue of the record is
refused.

This takes a single dispatcher, whose runs do not overlap, up to the requeue. What comes after it
may be anything.
-/

namespace Outbox

open Calendar

namespace Cluster

/-- Whether a move begins a run of one of the dispatchers under a number. -/
def Move.Begins (dispatchers : List Dispatcher) (number : Nat) : Move → Prop
  | .start other dispatcher .. => other = number ∧ dispatcher < dispatchers.length
  | _ => False

/-- Whether the next request of a run is to load the deliveries. -/
def Loading (cluster : Cluster) (number : Nat) : Prop :=
  ∃ dispatcher next, cluster.tasks number = some ⟨dispatcher, .ask .loadDeliveries next⟩

/-- Whether a run under way is about to load the deliveries. -/
def Task.isLoading (task : Task) : Bool :=
  match task.run with
  | .ask .loadDeliveries _ => true
  | _ => false

/-- A run is found to be loading by looking at its next request. -/
theorem loading_iff (cluster : Cluster) (number : Nat) :
    (cluster.tasks number).any Task.isLoading = true ↔ cluster.Loading number := by
  rw [Option.any_eq_true]
  constructor
  · rintro ⟨⟨dispatcher, run⟩, found, loading⟩
    rw [Task.isLoading] at loading
    split at loading
    · next next same =>
      obtain rfl : run = .ask .loadDeliveries next := same
      exact ⟨dispatcher, next, found⟩
    · cases loading
  · rintro ⟨dispatcher, next, found⟩
    exact ⟨_, found, rfl⟩

/-- Whether a run is about to load the deliveries can be looked up. -/
instance (cluster : Cluster) (number : Nat) : Decidable (cluster.Loading number) :=
  decidable_of_iff _ (cluster.loading_iff number)

/-- Whether the next request of a run is to deliver a record. -/
def Trying (cluster : Cluster) (number : Nat) (event : Identifier) : Prop :=
  ∃ dispatcher record next,
    cluster.tasks number = some ⟨dispatcher, .ask (.deliver record) next⟩ ∧ record.id = event

/-- Whether a run has loaded the deliveries with one of some moves, and no other run has begun under
its number since. -/
def LoadedSince (cluster : Cluster) (number : Nat) (moves : List Move) : Prop :=
  ∃ first names later, moves = first ++ .advance number names :: later ∧
    (cluster.run first).Loading number ∧
    ∀ move ∈ later, ¬ move.Begins cluster.dispatchers number

/-- Whether one of some moves is a try to deliver a record. -/
def Tried (cluster : Cluster) (number : Nat) (event : Identifier) (moves : List Move) : Prop :=
  ∃ first names later, moves = first ++ .advance number names :: later ∧
    (cluster.run first).Trying number event

/-- Whether one of some moves is a try to deliver a record by a run that has loaded the deliveries
with an earlier one of them. -/
def TriedSince (cluster : Cluster) (number : Nat) (event : Identifier) (moves : List Move) : Prop :=
  ∃ first names later, moves = first ++ .advance number names :: later ∧
    (cluster.run first).Trying number event ∧ cluster.LoadedSince number first

/-- What holds after some moves as long as nobody has tried a record: the delivery is remembered as
it was, the record is pending, and a run that may still have to do with it will try it first and has
loaded the deliveries with one of the moves, if at all. -/
structure Awaits (cluster : Cluster) (delivery : Delivery) (moves : List Move) : Prop where
  staged : (cluster.run moves).Staged
  remembered : (cluster.run moves).deliveries.find? delivery.event = some delivery
  pending : (cluster.run moves).IsPending delivery.event
  triesFirst : ∀ number task, (cluster.run moves).tasks number = some task →
    task.run.TriesFirst delivery.event
  loaded : ∀ number task, (cluster.run moves).tasks number = some task → task.run.Loaded →
    task.run.Only (·.subject? ≠ some delivery.event) ∨ cluster.LoadedSince number moves

/-- What is promised to an operator whose requeue is accepted in a cluster, whatever comes after
it. -/
structure KeepsRequeue (cluster : Cluster) (event : Identifier) (now : Timestamp) : Prop where
  /-- A run that has loaded the deliveries before has no more to do with the record. -/
  silent : ∀ number task, cluster.tasks number = some task → task.run.Loaded →
    task.run.Only (·.subject? ≠ some event)
  /-- The delivery is remembered as it was requeued until the record is tried. -/
  remembered : ∃ delivery, cluster.deliveries.find? event = some delivery ∧
    delivery.parked = true ∧ ∀ moves,
      ((cluster.perform (.requeue event now)).run moves).deliveries.find? event =
          some { delivery with attempts := 0, nextAttemptAt := now, parked := false } ∨
        ∃ number, (cluster.perform (.requeue event now)).TriedSince number event moves
  /-- No other requeue is accepted until the record is tried. -/
  once : ∀ moves, (∀ number, ¬ (cluster.perform (.requeue event now)).Tried number event moves) →
    ∀ later answer, (((cluster.perform (.requeue event now)).run moves).site.call
      (.requeue event later)).1 = .ok answer → answer = false
  /-- The relay says so to the operator. -/
  accepts : ∀ (relay : Relay) segment, Relay.recordOf? segment = some event →
    relay.site = cluster.site → (relay.requeueResponse segment now).1.status = 204
  /-- And it says to operators whose requeues are not accepted that the record is not parked. -/
  refuses : ∀ moves, (∀ number, ¬ (cluster.perform (.requeue event now)).Tried number event moves) →
    ∀ (relay : Relay) segment, Relay.recordOf? segment = some event →
      relay.site = ((cluster.perform (.requeue event now)).run moves).site →
        ∀ later answer, (relay.site.call (.requeue event later)).1 = .ok answer →
          (relay.requeueResponse segment later).1.status = 404

section

variable {cluster : Cluster} {event : Identifier} {number : Nat} {task : Task} {move : Move}
  {moves : List Move} {delivery : Delivery}

/-! ## Since when a run knows the deliveries -/

/-- A run that is begun takes the place of the one under its number. -/
theorem run_of_begins (begins : move.Begins cluster.dispatchers number)
    (found : (cluster.perform move).tasks number = some task) :
    ∃ policy isLeader now, task.run = Run.tick policy isLeader now := by
  cases move with
  | start other dispatcher isLeader now =>
    obtain ⟨rfl, inside⟩ := begins
    rw [perform, List.getElem?_eq_getElem inside] at found
    dsimp only at found
    rw [Function.update_self] at found
    obtain rfl := Option.some.inj found
    exact ⟨_, isLeader, now, rfl⟩
  | _ => exact begins.elim

/-- A run that has loaded the deliveries with one of some moves still has after another one, unless
that move begins a new run under its number. -/
theorem LoadedSince.append (since : cluster.LoadedSince number moves)
    (stays : ¬ move.Begins cluster.dispatchers number) :
    cluster.LoadedSince number (moves ++ [move]) := by
  obtain ⟨first, names, later, rfl, loading, uninterrupted⟩ := since
  refine ⟨first, names, later ++ [move], ?_, loading, ?_⟩
  · rw [List.append_assoc, List.cons_append]
  · intro other member
    rcases List.mem_append.mp member with earlier | last
    · exact uninterrupted other earlier
    · exact List.mem_singleton.mp last ▸ stays

/-- A try by a run that has loaded the deliveries since stays one, whatever happens later. -/
theorem TriedSince.append (since : cluster.TriedSince number event moves) (more : List Move) :
    cluster.TriedSince number event (moves ++ more) := by
  obtain ⟨first, names, later, rfl, trying, loaded⟩ := since
  refine ⟨first, names, later ++ more, ?_, trying, loaded⟩
  rw [List.append_assoc, List.cons_append]

/-- It is a try above all. -/
theorem TriedSince.tried (since : cluster.TriedSince number event moves) :
    cluster.Tried number event moves := by
  obtain ⟨first, names, later, split, trying, _⟩ := since
  exact ⟨first, names, later, split, trying⟩

/-! ## Moves after the requeue -/

/-- As long as nobody has tried a record, a run that asks something about it asks to deliver it. -/
theorem Awaits.trying (awaits : cluster.Awaits delivery moves) {dispatcher : Dispatcher}
    {request : Request} {next : request.Answer → Run}
    (waiting : (cluster.run moves).tasks number = some ⟨dispatcher, .ask request next⟩)
    (about : request.subject? = some delivery.event) :
    (cluster.run moves).Trying number delivery.event := by
  rcases awaits.triesFirst number _ waiting with ⟨record, rfl, same⟩ | ⟨foreign, _⟩
  · exact ⟨dispatcher, record, next, waiting, same⟩
  · exact absurd about foreign

/-- The first try is made by a run that has loaded the deliveries since. -/
theorem Awaits.triedSince (awaits : cluster.Awaits delivery moves)
    (trying : (cluster.run moves).Trying number delivery.event) (names : CategoryNames) :
    cluster.TriedSince number delivery.event (moves ++ [.advance number names]) := by
  refine ⟨moves, names, [], rfl, trying, ?_⟩
  obtain ⟨dispatcher, record, next, waiting, same⟩ := trying
  obtain ⟨loaded, _⟩ := (awaits.staged number _ waiting).of_subject nofun
  rcases awaits.loaded number _ waiting loaded with silent | since
  · exact absurd (congrArg some same) silent.1
  · exact since

/-- A run that makes its next request with a move that is no try asks nothing about the record. -/
theorem Awaits.foreign (awaits : cluster.Awaits delivery moves)
    (untried : ∀ number names, move = .advance number names →
      ¬ (cluster.run moves).Trying number delivery.event)
    {names : CategoryNames} {dispatcher : Dispatcher} {request : Request}
    {next : request.Answer → Run} (advances : move = .advance number names)
    (waiting : (cluster.run moves).tasks number = some ⟨dispatcher, .ask request next⟩) :
    request.subject? ≠ some delivery.event := by
  intro about
  exact untried number names advances (awaits.trying waiting about)

/-- A move that is no try keeps what is remembered. A retention job comes no nearer to it, since the
record is pending, and a requeue finds nothing parked. -/
theorem Awaits.remembered_perform (awaits : cluster.Awaits delivery moves)
    (unparked : delivery.parked = false)
    (untried : ∀ number names, move = .advance number names →
      ¬ (cluster.run moves).Trying number delivery.event) :
    ((cluster.run moves).perform move).deliveries.find? delivery.event = some delivery := by
  cases deliveryStep_perform (cluster.run moves) delivery.event move with
  | kept _ same => exact same.trans awaits.remembered
  | remembered _ _ _ _ _ waiting named _ =>
    exact absurd (congrArg some named) (awaits.foreign untried rfl waiting)
  | forgotten _ _ _ _ waiting _ => exact absurd rfl (awaits.foreign untried rfl waiting)
  | requeued _ former found parked _ =>
    obtain rfl := Option.some.inj (awaits.remembered.symm.trans found)
    rw [unparked] at parked
    cases parked
  | deleted _ _ record stored sent _ =>
    obtain ⟨other, known, pending⟩ := awaits.pending
    obtain rfl := Option.some.inj (known.symm.trans stored)
    rw [pending] at sent
    cases sent

/-- After a move that is no try, every run still tries the record first. -/
theorem Awaits.triesFirst_perform (awaits : cluster.Awaits delivery moves)
    (untried : ∀ number names, move = .advance number names →
      ¬ (cluster.run moves).Trying number delivery.event)
    (found : ((cluster.run moves).perform move).tasks number = some task) :
    task.run.TriesFirst delivery.event := by
  rcases task_perform (cluster.run moves) move found with
    before | ⟨_, isLeader, now, begun⟩ | ⟨names, request, next, advances, waiting, answered⟩
  · exact awaits.triesFirst number task before
  · rw [begun]
    exact (Run.stage_tick _ isLeader now).triesFirst fun loaded =>
      Run.triesFirst_of_only loaded.only_tick
  · rw [answered]
    rcases awaits.triesFirst number _ waiting with ⟨record, rfl, same⟩ | ⟨_, rest⟩
    · exact absurd (congrArg some same) (awaits.foreign untried advances waiting)
    · exact rest _

/-- After any move, a run that has loaded the deliveries leaves the record alone or has loaded them
with one of the moves: either this was so before, or it has just loaded them. -/
theorem Awaits.loaded_perform (awaits : cluster.Awaits delivery moves)
    (found : ((cluster.run moves).perform move).tasks number = some task)
    (loaded : task.run.Loaded) :
    task.run.Only (·.subject? ≠ some delivery.event) ∨
      cluster.LoadedSince number (moves ++ [move]) := by
  by_cases begins : move.Begins (cluster.run moves).dispatchers number
  · obtain ⟨policy, isLeader, now, begun⟩ := run_of_begins begins found
    rw [begun] at loaded ⊢
    exact Or.inl loaded.only_tick
  · rw [dispatchers_run] at begins
    rcases task_perform (cluster.run moves) move found with
      before | ⟨_, isLeader, now, begun⟩ | ⟨names, request, next, advances, waiting, answered⟩
    · exact (awaits.loaded number task before loaded).imp_right fun since => since.append begins
    · rw [begun] at loaded ⊢
      exact Or.inl loaded.only_tick
    · rw [answered] at loaded ⊢
      have stage : (Run.ask request next).Stage := awaits.staged number _ waiting
      cases stage with
      | beginning policy now => exact Or.inl loaded.only_withPending
      | listed policy now pending _ =>
        right
        exact ⟨moves, names, [], by rw [advances], ⟨_, _, waiting⟩,
          fun _ member => absurd member List.not_mem_nil⟩
      | loaded _ before _ =>
        rcases awaits.loaded number _ waiting before with silent | since
        · exact Or.inl (silent.2 _)
        · exact Or.inr (since.append begins)

/-- A move that is no try keeps everything as it was. Each part of the invariant has a step lemma of
its own. -/
theorem Awaits.perform (awaits : cluster.Awaits delivery moves) (unparked : delivery.parked = false)
    (untried : ∀ number names, move = .advance number names →
      ¬ (cluster.run moves).Trying number delivery.event) :
    cluster.Awaits delivery (moves ++ [move]) := by
  have after : cluster.run (moves ++ [move]) = (cluster.run moves).perform move := run_append ..
  constructor
  · rw [after]
    exact awaits.staged.perform move
  · rw [after]
    exact awaits.remembered_perform unparked untried
  · rw [after]
    rcases awaits.pending.perform move with stays | ⟨_, _, _, _, _, advances, waiting⟩
    · exact stays
    · exact absurd rfl (awaits.foreign untried advances waiting)
  · rw [after]
    intro number task found
    exact awaits.triesFirst_perform untried found
  · rw [after]
    intro number task found loaded
    exact awaits.loaded_perform found loaded

/-- What is remembered stays as it is until a run tries the record that has loaded the deliveries
since.

Induct over the moves from the last one backward. -/
theorem awaits_or_tried (awaits : cluster.Awaits delivery []) (unparked : delivery.parked = false)
    (moves : List Move) : cluster.Awaits delivery moves ∨
      ∃ number, cluster.TriedSince number delivery.event moves := by
  induction moves using List.reverseRecOn with
  | nil => exact Or.inl awaits
  | append_singleton moves move inductionHypothesis =>
    rcases inductionHypothesis with awaits | ⟨number, tried⟩
    · by_cases tries : ∃ number names, move = .advance number names ∧
          (cluster.run moves).Trying number delivery.event
      · obtain ⟨number, names, rfl, trying⟩ := tries
        exact Or.inr ⟨number, awaits.triedSince trying names⟩
      · left
        apply awaits.perform unparked
        intro number names advances trying
        exact tries ⟨number, names, advances, trying⟩
    · exact Or.inr ⟨number, tried.append [move]⟩

/-- Nobody finds the record parked as long as nobody has tried it. -/
theorem Awaits.refuses (awaits : cluster.Awaits delivery moves) (unparked : delivery.parked = false)
    {later : Timestamp} {answer : Bool}
    (answered : ((cluster.run moves).site.call (.requeue delivery.event later)).1 = .ok answer) :
    answer = false := by
  cases answer with
  | false => rfl
  | true =>
    obtain ⟨former, known, parked, _⟩ := Site.requeue_accepted answered
    obtain rfl := Option.some.inj (awaits.remembered.symm.trans known)
    rw [unparked] at parked
    cases parked

/-- Right after an accepted requeue nobody has tried the record, and every run that has loaded the
deliveries before leaves it alone. -/
theorem Truthful.awaits (truthful : cluster.Truthful event (·.subject? = some event))
    {now : Timestamp} (known : cluster.deliveries.find? event = some delivery)
    (parked : delivery.parked = true)
    (requeued : (cluster.perform (.requeue event now)).deliveries.find? event =
      some (delivery.requeued now)) :
    (cluster.perform (.requeue event now)).Awaits (delivery.requeued now) [] := by
  have named : (delivery.requeued now).event = event := Table.key_of_find? requeued
  obtain ⟨pending, silent⟩ := truthful.parked delivery known parked
  constructor
  · exact truthful.staged
  · rw [named]
    exact requeued
  · rw [named]
    rcases pending.perform (.requeue event now) with stays | ⟨_, _, _, _, _, advances, _⟩
    · exact stays
    · cases advances
  · rw [named]
    intro number task found
    exact (truthful.staged number task found).triesFirst fun loaded =>
      Run.triesFirst_of_only (silent number task found loaded)
  · rw [named]
    intro number task found loaded
    exact Or.inl (silent number task found loaded)

end

/-- A requeue that is accepted is not lost, when up to then a single dispatcher makes runs that do
not overlap. A run that has loaded the deliveries before has no more to do with the record, so the
delivery is remembered as it was requeued until a run tries the record that has loaded the
deliveries since, and until the record is tried no other requeue of it is accepted. -/
theorem requeue_not_lost (dispatchers : List Dispatcher) (number : Nat) (moves : List Move)
    (event : Identifier) (now : Timestamp) (alone : ∀ move ∈ moves, move.RunsAs number)
    (accepted : (((opened dispatchers).run moves).site.call (.requeue event now)).1 = .ok true) :
    ((opened dispatchers).run moves).KeepsRequeue event now := by
  have truthful : ((opened dispatchers).run moves).Truthful event (·.subject? = some event) :=
    truthful_alone dispatchers alone (fun _ about => about) fun _ => rfl
  generalize (opened dispatchers).run moves = cluster at truthful accepted
  obtain ⟨delivery, known, parked, requeued⟩ := Site.requeue_accepted accepted
  obtain rfl : delivery.event = event := Table.key_of_find? known
  have awaits := truthful.awaits known parked requeued
  have once (moves : List Move) (untried : ∀ number,
      ¬ (cluster.perform (.requeue delivery.event now)).Tried number delivery.event moves)
      (later : Timestamp) (answer : Bool)
      (answered : (((cluster.perform (.requeue delivery.event now)).run moves).site.call
        (.requeue delivery.event later)).1 = .ok answer) : answer = false := by
    rcases awaits_or_tried awaits rfl moves with awaits | ⟨number, tried⟩
    · exact awaits.refuses rfl answered
    · exact absurd tried.tried (untried number)
  constructor
  · exact (truthful.parked delivery known parked).2
  · refine ⟨delivery, known, parked, ?_⟩
    intro moves
    exact (awaits_or_tried awaits rfl moves).imp_left Awaits.remembered
  · exact once
  · intro relay segment parsed same
    rw [Relay.status_requeueResponse parsed, same, accepted]
  · intro moves untried relay segment parsed same later answer answered
    have refused : answer = false := once moves untried later answer (same ▸ answered)
    rw [Relay.status_requeueResponse parsed, answered, refused]

/-! ## A requeue while the deliveries are about to be loaded -/

/-- Nobody tries a record with the request that loads the deliveries. -/
theorem untried_of_loading {cluster : Cluster} {number : Nat} (loading : cluster.Loading number)
    (names : CategoryNames) (event : Identifier) (other : Nat) :
    ¬ cluster.Tried other event [.advance number names] := by
  rintro ⟨first, _, later, split, dispatcher, record, next, waiting, _⟩
  rcases first with _ | ⟨move, moves⟩
  · obtain ⟨same, _⟩ := List.cons.inj split
    obtain ⟨rfl, _⟩ := Move.advance.inj same
    obtain ⟨_, _, found⟩ := loading
    have both := Option.some.inj (found.symm.trans waiting)
    cases both
  · simp at split

/-- A run parks the first record, because the broker rejects it. While it is about to write so, two
more records come in together. The next run has loaded the pending records but not yet the
deliveries. -/
def parkedBetweenRuns : List Move :=
  let ask : Move := .advance 0 fun _ => none
  [.save (.numbered 1), .disturb .none true none [(EventRecord.numbered 1).id] none,
    .start 0 0 true default, ask, ask, ask,
    .begin 5, .insert 5 (.numbered 2), .insert 5 (.numbered 3), .commit 5, ask,
    .start 0 0 true default, ask]

/-- The cluster between the loads of the second run. -/
def betweenLoads : Cluster := (opened [strictDispatcher]).run parkedBetweenRuns

/-- The cluster after an operator has asked for the first record and the run has loaded the
deliveries. -/
def afterLoads : Cluster :=
  (betweenLoads.perform (.requeue (EventRecord.numbered 1).id default)).run
    [.advance 0 fun _ => none]

/-- A relay with the site of a cluster. -/
def relayOf (cluster : Cluster) : Relay := ⟨.default, cluster.site, .plain, ⟨.empty⟩, true⟩

/-- An operator who asks for the first record before the run has loaded the deliveries is told that
it will be tried again. Another one who asks for it right after the load is told that it is not
parked, and the delivery is remembered as the first one has asked. -/
theorem requeue_between_loads :
    ((relayOf betweenLoads).handle "POST" (Relay.requeueAddress (EventRecord.numbered 1).id)
        default).1.status = 204 ∧
      ((relayOf afterLoads).handle "POST" (Relay.requeueAddress (EventRecord.numbered 1).id)
        default).1.status = 404 ∧
      ∃ delivery : Delivery, afterLoads.deliveries.find? (EventRecord.numbered 1).id =
        some { delivery with attempts := 0, nextAttemptAt := default, parked := false } := by
  have accepted :
      (betweenLoads.site.call (.requeue (EventRecord.numbered 1).id default)).1 = .ok true := by
    decide +kernel
  have alone : ∀ move ∈ parkedBetweenRuns, move.RunsAs 0 := by
    simp [parkedBetweenRuns, Move.RunsAs]
  have loading :
      (betweenLoads.perform (.requeue (EventRecord.numbered 1).id default)).Loading 0 := by
    decide +kernel
  have untried := untried_of_loading loading (fun _ => none) (EventRecord.numbered 1).id
  have keeps := requeue_not_lost [strictDispatcher] 0 parkedBetweenRuns _ default alone accepted
  have named := Relay.recordOf?_text (EventRecord.numbered 1).id
  refine ⟨?_, ?_, ?_⟩
  · rw [Relay.handle_requeueAddress]
    exact keeps.accepts (relayOf betweenLoads) _ named rfl
  · rw [Relay.handle_requeueAddress]
    exact keeps.refuses _ untried (relayOf afterLoads) _ named rfl default false
      (by decide +kernel)
  · obtain ⟨delivery, _, _, awaits⟩ := keeps.remembered
    rcases awaits [.advance 0 fun _ => none] with kept | ⟨number, tried⟩
    · exact ⟨delivery, kept⟩
    · exact absurd tried.tried (untried number)

end Cluster

end Outbox
