import Mathlib.Data.Finset.Card
import Mathlib.Data.List.Sort
import Outbox.Registry

/-!
# Registered handlers

Handlers are registered one after the other, and of several for one kind the first one stays: a
refused registration leaves the registry as it was. So what a registry has for each kind is read off
the handlers in their order.

The check for completeness takes the expected kinds as they come, in any order and any number of
times. It sorts those that have no handler, which brings repetitions next to each other, so that
each kind is named once.
-/

namespace Outbox

/-! ## Sorted lists without repetitions -/

section

variable {Item : Type} [BEq Item]

/-- What is dropped of a list of items does not depend on what has been collected before. -/
theorem eraseReps_loop_eq (item : Item) (items collected : List Item) :
    List.eraseRepsBy.loop (· == ·) item items collected =
      collected.reverse ++ List.eraseRepsBy.loop (· == ·) item items [] := by
  induction items generalizing item collected with
  | nil => simp [List.eraseRepsBy.loop]
  | cons next rest inductionHypothesis =>
    rw [List.eraseRepsBy.loop, List.eraseRepsBy.loop]
    split
    · exact inductionHypothesis item collected
    · rw [inductionHypothesis next (item :: collected), inductionHypothesis next [item]]
      simp

variable [LawfulBEq Item]

/-- An item is dropped when the same one follows. -/
theorem eraseReps_cons_self (item : Item) (rest : List Item) :
    (item :: item :: rest).eraseReps = (item :: rest).eraseReps := by
  simp [List.eraseReps, List.eraseRepsBy, List.eraseRepsBy.loop]

/-- An item is kept when another one follows. -/
theorem eraseReps_cons_of_ne {item next : Item} (differ : item ≠ next) (rest : List Item) :
    (item :: next :: rest).eraseReps = item :: (next :: rest).eraseReps := by
  rw [List.eraseReps, List.eraseRepsBy, List.eraseRepsBy.loop, beq_false_of_ne differ]
  exact eraseReps_loop_eq next rest [item]

/-- Dropping repetitions loses no item and brings none in. -/
theorem mem_eraseReps {item : Item} {items : List Item} :
    item ∈ items.eraseReps ↔ item ∈ items := by
  induction items with
  | nil => rfl
  | cons first rest inductionHypothesis =>
    cases rest with
    | nil => rfl
    | cons next rest =>
      by_cases same : first = next
      · subst same
        rw [eraseReps_cons_self, inductionHypothesis]
        simp
      · rw [eraseReps_cons_of_ne same, List.mem_cons, inductionHypothesis, ← List.mem_cons]

/-- Where items come in order, each one that is left comes strictly before those behind it.

Induct over the items. An item that is kept differs from the next one, which does not come after any
of the others. -/
theorem pairwise_eraseReps {rank : Item → Nat} (injective : ∀ left right, rank left = rank right →
    left = right) {items : List Item}
    (sorted : items.Pairwise fun left right => rank left ≤ rank right) :
    items.eraseReps.Pairwise fun left right => rank left < rank right := by
  induction items with
  | nil => exact List.Pairwise.nil
  | cons first rest inductionHypothesis =>
    obtain ⟨least, restSorted⟩ := List.pairwise_cons.mp sorted
    cases rest with
    | nil => exact List.pairwise_singleton _ _
    | cons next rest =>
      by_cases same : first = next
      · rw [same, eraseReps_cons_self]
        exact inductionHypothesis restSorted
      · rw [eraseReps_cons_of_ne same]
        refine List.pairwise_cons.mpr ⟨?_, inductionHypothesis restSorted⟩
        have below : rank first < rank next := by
          have upTo := least next List.mem_cons_self
          have differ : rank first ≠ rank next := fun equal => same (injective _ _ equal)
          omega
        intro item member
        rcases List.mem_cons.mp (mem_eraseReps.mp member) with rfl | later
        · exact below
        · exact Nat.lt_of_lt_of_le below ((List.pairwise_cons.mp restSorted).1 item later)

end

namespace AggregateType

/-- Every kind is one of them all. -/
theorem mem_all (kind : AggregateType) : kind ∈ all := by
  cases kind <;> decide

/-- No two kinds have the same place. -/
theorem rank_injective (left right : AggregateType) (same : left.rank = right.rank) :
    left = right :=
  (List.idxOf_inj (mem_all left)).mp same

/-- Kinds in strict order stand in this order among all kinds. -/
theorem eq_filter_all {kinds : List AggregateType}
    (sorted : kinds.Pairwise fun left right => left.rank < right.rank) :
    kinds = all.filter (· ∈ kinds) := by
  have irreflexive : Std.Irrefl fun left right : AggregateType => left.rank < right.rank :=
    ⟨fun kind => Nat.lt_irrefl kind.rank⟩
  have antisymmetric : Std.Antisymm fun left right : AggregateType => left.rank < right.rank :=
    ⟨fun _ _ forth back => absurd back (Nat.lt_asymm forth)⟩
  have allSorted : (all.filter (· ∈ kinds)).Pairwise fun left right => left.rank < right.rank :=
    List.Pairwise.filter _ (by decide)
  apply sorted.eq_of_mem_iff allSorted
  intro kind
  simp [mem_all]

/-- Sorting kinds and dropping repetitions names each of them once, in order. -/
theorem eraseReps_mergeSort (kinds : List AggregateType) :
    (kinds.mergeSort fun left right => left.rank ≤ right.rank).eraseReps =
      all.filter (· ∈ kinds) := by
  have sorted : (kinds.mergeSort fun left right => left.rank ≤ right.rank).Pairwise
      fun left right => decide (left.rank ≤ right.rank) = true := by
    apply List.pairwise_mergeSort
    · intro first second third
      simp only [decide_eq_true_eq]
      omega
    · intro left right
      simp only [Bool.or_eq_true, decide_eq_true_eq]
      omega
  rw [eq_filter_all (pairwise_eraseReps rank_injective (sorted.imp of_decide_eq_true))]
  simp only [mem_eraseReps, List.mem_mergeSort]

end AggregateType

namespace Registry

/-! ## One registration after the other -/

/-- A registry contains a kind exactly when one of its handlers is for it. -/
theorem contains_iff (registry : Registry) (kind : AggregateType) :
    registry.contains kind = true ↔ ∃ handler ∈ registry.handlers, handler.tag = kind := by
  rw [contains, find?, List.find?_isSome]
  simp

/-- A handler that a registry finds for a kind is one of its handlers and is for this kind. -/
theorem mem_of_resolve {registry : Registry} {kind : AggregateType} {handler : Handler}
    (resolved : registry.resolve kind = .ok handler) :
    handler ∈ registry.handlers ∧ handler.tag = kind := by
  rw [resolve] at resolved
  cases found : registry.find? kind with
  | none =>
    rw [found] at resolved
    cases resolved
  | some held =>
    rw [found] at resolved
    cases resolved
    exact ⟨List.mem_of_find?_eq_some found, by simpa using List.find?_some found⟩

/-- A registry contains a kind exactly when it has a handler to give out for it. -/
theorem contains_iff_resolve (registry : Registry) (kind : AggregateType) :
    registry.contains kind = true ↔ ∃ handler, registry.resolve kind = .ok handler := by
  rw [contains, resolve]
  cases registry.find? kind <;> simp

/-- The kinds that have a handler, in the order of registration. -/
def tags (registry : Registry) : List AggregateType := registry.handlers.map Handler.tag

/-- A kind has a handler exactly when it is the kind of one of them. -/
theorem contains_iff_mem_tags (registry : Registry) (kind : AggregateType) :
    registry.contains kind = true ↔ kind ∈ registry.tags := by
  rw [contains_iff, tags, List.mem_map]

/-- Whether a kind has a handler, as a truth value. -/
theorem contains_eq_decide (registry : Registry) (kind : AggregateType) :
    registry.contains kind = decide (kind ∈ registry.tags) := by
  rw [Bool.eq_iff_iff, contains_iff_mem_tags, decide_eq_true_iff]

/-- No kind has two handlers. The registry carries this with it. -/
theorem nodup_tags (registry : Registry) : registry.tags.Nodup :=
  List.pairwise_map.mpr registry.distinct

/-- A handler for a kind that has one is refused, and nothing changes. -/
theorem offer_of_mem {registry : Registry} {handler : Handler}
    (known : handler.tag ∈ registry.tags) :
    registry.offer handler = (.error (.duplicate handler.tag), registry) := by
  have contained := (contains_iff_mem_tags registry handler.tag).mpr known
  rw [offer, register, dif_pos contained]

/-- A handler for a kind that has none is put behind the others. -/
theorem offer_of_not_mem {registry : Registry} {handler : Handler}
    (fresh : handler.tag ∉ registry.tags) :
    (registry.offer handler).1 = .ok () ∧
      (registry.offer handler).2.handlers = registry.handlers ++ [handler] := by
  have absent : ¬registry.contains handler.tag := by
    rw [contains_iff_mem_tags]
    exact fresh
  rw [offer, register, dif_neg absent]
  exact ⟨rfl, rfl⟩

/-- After a registration a kind has the handler that it had before, or else the new one. -/
theorem find?_offer (registry : Registry) (handler : Handler) (kind : AggregateType) :
    (registry.offer handler).2.find? kind =
      (registry.find? kind).or ([handler].find? fun handler => handler.tag = kind) := by
  by_cases known : handler.tag ∈ registry.tags
  · rw [offer_of_mem known]
    cases found : registry.find? kind with
    | some held => rfl
    | none =>
      -- The kind has no handler, so it is not the one for which the new handler is refused.
      have other : handler.tag ≠ kind := by
        rintro rfl
        rw [← contains_iff_mem_tags, contains, found] at known
        cases known
      simp [other]
  · rw [find?, (offer_of_not_mem known).2, List.find?_append, ← find?]

/-! ## A history of registrations -/

/-- The first one of some handlers is offered first, and its answer comes first. -/
theorem offerAll_cons (registry : Registry) (handler : Handler) (rest : List Handler) :
    registry.offerAll (handler :: rest) =
      ((registry.offer handler).1 :: ((registry.offer handler).2.offerAll rest).1,
        ((registry.offer handler).2.offerAll rest).2) := rfl

/-- Handlers that are cut in two are offered one after the other, the others to the registry that
the first ones have led to. -/
theorem offerAll_append (registry : Registry) (first second : List Handler) :
    registry.offerAll (first ++ second) =
      ((registry.offerAll first).1 ++ ((registry.offerAll first).2.offerAll second).1,
        ((registry.offerAll first).2.offerAll second).2) := by
  induction first generalizing registry with
  | nil => rfl
  | cons handler rest inductionHypothesis =>
    rw [List.cons_append, offerAll_cons, inductionHypothesis, offerAll_cons, List.cons_append]

/-- Each registration gets one answer. -/
theorem length_offerAll (registry : Registry) (handlers : List Handler) :
    (registry.offerAll handlers).1.length = handlers.length := by
  induction handlers generalizing registry with
  | nil => rfl
  | cons handler rest inductionHypothesis =>
    rw [offerAll_cons, List.length_cons, inductionHypothesis, List.length_cons]

/-- The handler between others is answered by the registry that those before it have left. -/
theorem getElem?_offerAll (registry : Registry) (earlier : List Handler) (handler : Handler)
    (later : List Handler) :
    (registry.offerAll (earlier ++ handler :: later)).1[earlier.length]? =
      some ((registry.offerAll earlier).2.offer handler).1 := by
  rw [offerAll_append, offerAll_cons, ← length_offerAll registry earlier]
  simp

/-- A kind has the handler that it had at the beginning, or else the first one that is registered
for it. -/
theorem find?_offerAll (registry : Registry) (handlers : List Handler) (kind : AggregateType) :
    (registry.offerAll handlers).2.find? kind =
      (registry.find? kind).or (handlers.find? fun handler => handler.tag = kind) := by
  induction handlers generalizing registry with
  | nil => simp [offerAll]
  | cons handler rest inductionHypothesis =>
    rw [offerAll_cons, inductionHypothesis, find?_offer, Option.or_assoc, ← List.find?_append,
      List.singleton_append]

/-- The kinds that have a handler in the end are those of the registered handlers. -/
theorem mem_tags_offerAll (handlers : List Handler) (kind : AggregateType) :
    kind ∈ (empty.offerAll handlers).2.tags ↔ kind ∈ handlers.map Handler.tag := by
  rw [← contains_iff_mem_tags, contains, find?_offerAll]
  simp [find?, empty]

/-- The registry has one handler for each of the different kinds that were registered. -/
theorem size_offerAll (handlers : List Handler) :
    (empty.offerAll handlers).2.size = (handlers.map Handler.tag).toFinset.card := by
  have sameKinds : (handlers.map Handler.tag).toFinset =
      (empty.offerAll handlers).2.tags.toFinset := by
    ext kind
    rw [List.mem_toFinset, List.mem_toFinset, mem_tags_offerAll]
  rw [sameKinds, List.toFinset_card_of_nodup (nodup_tags _), tags, List.length_map, size]

/-! ## The check for completeness -/

/-- A registry is complete exactly when every expected kind has a handler. -/
theorem ensureComplete_ok_iff (registry : Registry) (expected : List AggregateType) :
    registry.ensureComplete expected = .ok () ↔ ∀ kind ∈ expected, kind ∈ registry.tags := by
  rw [ensureComplete]
  split
  · next nothing =>
    simpa [contains_iff_mem_tags, List.filter_eq_nil_iff] using nothing
  · next something =>
    simpa [contains_iff_mem_tags, List.filter_eq_nil_iff] using something

/-- Otherwise the expected kinds without a handler are named, each of them once and in order. -/
theorem ensureComplete_of_missing {registry : Registry} {expected : List AggregateType}
    (incomplete : ¬∀ kind ∈ expected, kind ∈ registry.tags) :
    registry.ensureComplete expected = .error (.incomplete
      (AggregateType.all.filter fun kind => kind ∈ expected ∧ kind ∉ registry.tags)) := by
  have something : ¬(expected.filter fun kind => !registry.contains kind).isEmpty = true := by
    simpa [contains_iff_mem_tags, List.filter_eq_nil_iff] using incomplete
  rw [ensureComplete, if_neg something]
  dsimp only
  rw [AggregateType.eraseReps_mergeSort]
  simp [contains_eq_decide]

/-! ## First come, first served -/

/-- Of the handlers that are registered for a kind the first one stays, in every sequence of
registrations, and the check for completeness is exact.

A handler is refused, and the registry stays as it was, exactly when an earlier one was for the same
kind. In the end the registry finds for each kind the first handler that was registered for it,
which is a handler for this kind, and otherwise says that there is none; it has as many handlers as
different kinds were registered. Whatever kinds are expected, in any order and any number of times,
the check succeeds exactly when all of them were registered, and otherwise names those that were
not, each of them once and in the order of all kinds. -/
theorem first_handler_stays (handlers : List Handler) :
    let answers := (empty.offerAll handlers).1
    let registry := (empty.offerAll handlers).2
    (∀ earlier handler later, handlers = earlier ++ handler :: later →
      if handler.tag ∈ earlier.map Handler.tag then
        answers[earlier.length]? = some (.error (.duplicate handler.tag)) ∧
          (empty.offerAll (earlier ++ [handler])).2 = (empty.offerAll earlier).2
      else
        answers[earlier.length]? = some (.ok ()) ∧
          (empty.offerAll (earlier ++ [handler])).2.handlers =
            (empty.offerAll earlier).2.handlers ++ [handler]) ∧
    (∀ kind, registry.resolve kind =
      match handlers.find? fun handler => handler.tag = kind with
      | some handler => .ok handler
      | none => .error (.notFound kind)) ∧
    (∀ kind, (registry.contains kind = true ↔ ∃ handler, registry.resolve kind = .ok handler) ∧
      ∀ handler, registry.resolve kind = .ok handler → handler.tag = kind) ∧
    registry.size = (handlers.map Handler.tag).toFinset.card ∧
    ∀ expected,
      (registry.ensureComplete expected = .ok () ↔
        ∀ kind ∈ expected, kind ∈ handlers.map Handler.tag) ∧
      (registry.ensureComplete expected ≠ .ok () →
        registry.ensureComplete expected = .error (.incomplete
          ([.product, .supplier, .agreement].filter fun kind =>
            kind ∈ expected ∧ kind ∉ handlers.map Handler.tag))) := by
  intro answers registry
  have found (kind : AggregateType) :
      registry.find? kind = handlers.find? fun handler => handler.tag = kind :=
    find?_offerAll empty handlers kind
  have registered (kind : AggregateType) :
      kind ∈ registry.tags ↔ kind ∈ handlers.map Handler.tag :=
    mem_tags_offerAll handlers kind
  refine ⟨?_, ?_, ?_, size_offerAll handlers, ?_⟩
  · rintro earlier handler later rfl
    have answered := getElem?_offerAll empty earlier handler later
    have left : (empty.offerAll (earlier ++ [handler])).2 =
        ((empty.offerAll earlier).2.offer handler).2 := by
      rw [offerAll_append]
      rfl
    rw [left]
    split
    · next repeated =>
      rw [offer_of_mem ((mem_tags_offerAll earlier _).mpr repeated)] at answered ⊢
      exact ⟨answered, rfl⟩
    · next first =>
      obtain ⟨accepted, grown⟩ := offer_of_not_mem (mt (mem_tags_offerAll earlier _).mp first)
      rw [accepted] at answered
      exact ⟨answered, grown⟩
  · intro kind
    rw [← found kind]
    rfl
  · intro kind
    exact ⟨contains_iff_resolve registry kind, fun handler resolved => (mem_of_resolve resolved).2⟩
  · intro expected
    simp only [← registered]
    exact ⟨ensureComplete_ok_iff registry expected,
      fun incomplete => ensureComplete_of_missing (mt (ensureComplete_ok_iff _ _).mpr incomplete)⟩

/-- A handler that passes every snapshot on and calls that one of its versions. -/
def passing (tag : AggregateType) (version : Nat) : Handler where
  tag
  prepare _ payload := .ok { partitionKey := "", payload, version }

/-- Two handlers for suppliers. -/
def rivals : List Handler := [passing .supplier 1, passing .supplier 2]

/-- Of two handlers for suppliers the second one is refused, and of what is expected products and
agreements are missing, in this order. -/
theorem second_supplier_refused :
    let (answers, registry) := empty.offerAll rivals
    rivals = [passing .supplier 1] ++ passing .supplier 2 :: [] ∧
      answers[1]? = some (.error (.duplicate .supplier)) ∧
      registry.resolve .supplier = .ok (passing .supplier 1) ∧
      (passing .supplier 1).tag = .supplier ∧ registry.size = 1 ∧
      registry.ensureComplete [.agreement, .product, .supplier, .agreement] =
        .error (.incomplete [.product, .agreement]) := by
  obtain ⟨history, resolved, tagged, many, complete⟩ := first_handler_stays rivals
  have second := history [passing .supplier 1] (passing .supplier 2) [] rfl
  rw [if_pos (by decide)] at second
  have first := resolved .supplier
  obtain ⟨succeeds, names⟩ := complete [.agreement, .product, .supplier, .agreement]
  have incomplete := names (mt succeeds.mp (by decide))
  exact ⟨rfl, second.1, first, (tagged .supplier).2 _ first, many, incomplete⟩

end Registry

end Outbox
