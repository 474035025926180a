import Mathlib.Data.List.Nodup
import Outbox.Proofs.Calendar
import Outbox.Store.Memory

/-!
# The order of delivery

Records are delivered by the time of their creation, and those created at once by their identifiers.
Of two records at most one comes before the other, and coming before is transitive also where
records are equal in this order, so putting records in order is a sort: it keeps the records, and
records in order stay as they are.
-/

namespace Outbox

open Calendar

/-- Moments with an identifier each are compared by the seconds, then by the nanoseconds, then by
the identifiers. -/
theorem before_or_below_iff (left right : Timestamp) (leftId rightId : Identifier) :
    (left.before right || left = right && leftId < rightId) = true ↔
      left.seconds < right.seconds ∨
        left.seconds = right.seconds ∧
          (left.nanos < right.nanos ∨
            left.nanos = right.nanos ∧ leftId.number < rightId.number) := by
  have sameMoment : left = right ↔ left.seconds = right.seconds ∧ left.nanos = right.nanos := by
    constructor
    · intro same
      rw [same]
      exact ⟨rfl, rfl⟩
    · rintro ⟨seconds, nanos⟩
      exact Timestamp.mk.injEq .. ▸ ⟨seconds, nanos⟩
  have byNumber : leftId < rightId ↔ leftId.number < rightId.number := Iff.rfl
  simp only [Timestamp.before, Bool.or_eq_true, Bool.and_eq_true, decide_eq_true_eq, sameMoment,
    byNumber]
  omega

/-- The order of delivery compares the moments of creation and then the identifiers. -/
theorem EventRecord.before_iff (left right : EventRecord) :
    left.before right = true ↔
      left.created.seconds < right.created.seconds ∨
        left.created.seconds = right.created.seconds ∧
          (left.created.nanos < right.created.nanos ∨
            left.created.nanos = right.created.nanos ∧ left.id.number < right.id.number) :=
  before_or_below_iff left.created right.created left.id right.id

namespace MemoryStore

/-- Not coming after is transitive. -/
theorem upTo_trans (first second third : EventRecord)
    (firstSecond : (!second.before first) = true) (secondThird : (!third.before second) = true) :
    (!third.before first) = true := by
  simp only [Bool.not_eq_true', Bool.eq_false_iff, ne_eq, EventRecord.before_iff] at *
  omega

/-- Of two records one does not come after the other. -/
theorem upTo_total (left right : EventRecord) :
    ((!right.before left) || (!left.before right)) = true := by
  simp only [Bool.or_eq_true, Bool.not_eq_true', Bool.eq_false_iff, ne_eq, EventRecord.before_iff]
  omega

/-- Putting records in order keeps the records. -/
theorem inOrder_perm (records : List EventRecord) : (inOrder records).Perm records :=
  List.mergeSort_perm records _

/-- The records around one of several with distinct identifiers go by other identifiers. A run that
is at this record has nothing to do with it before and behind that place. -/
theorem apart_of_nodup {earlier later : List EventRecord} {record : EventRecord}
    (distinct : ((earlier ++ record :: later).map EventRecord.id).Nodup) :
    (∀ other ∈ earlier, other.id ≠ record.id) ∧ (∀ other ∈ later, other.id ≠ record.id) ∧
      ∀ left ∈ earlier, ∀ right ∈ later, left.id ≠ right.id := by
  rw [List.map_append, List.map_cons, List.nodup_append] at distinct
  obtain ⟨_, fromRecord, apart⟩ := distinct
  refine ⟨?_, ?_, ?_⟩
  · intro other inside
    exact apart other.id (List.mem_map_of_mem inside) record.id List.mem_cons_self
  · intro other inside same
    apply (List.nodup_cons.mp fromRecord).1
    rw [← same]
    exact List.mem_map_of_mem inside
  · intro left leftInside right rightInside
    exact apart left.id (List.mem_map_of_mem leftInside) right.id
      (List.mem_cons_of_mem _ (List.mem_map_of_mem rightInside))

/-- Putting records in order neither adds nor drops one. -/
theorem mem_inOrder (records : List EventRecord) (record : EventRecord) :
    record ∈ inOrder records ↔ record ∈ records :=
  (inOrder_perm records).mem_iff

/-- Records in order do not come after one another. -/
theorem pairwise_inOrder (records : List EventRecord) :
    (inOrder records).Pairwise fun left right => (!right.before left) = true :=
  List.pairwise_mergeSort upTo_trans upTo_total records

/-- Records that go by distinct identifiers have only one order. -/
theorem inOrder_eq {records ordered : List EventRecord}
    (distinct : (records.map EventRecord.id).Nodup) (same : ordered.Perm records)
    (inTurn : ordered.Pairwise fun left right => (!right.before left) = true) :
    inOrder records = ordered := by
  refine List.Perm.eq_of_pairwise ?_ (pairwise_inOrder records) inTurn
    ((inOrder_perm records).trans same.symm)
  intro left right leftInside rightInside forth back
  apply List.inj_on_of_nodup_map distinct ((inOrder_perm records).mem_iff.mp leftInside)
    (same.mem_iff.mp rightInside)
  simp only [Bool.not_eq_true', Bool.eq_false_iff, ne_eq, EventRecord.before_iff] at forth back
  have sameNumber : left.id.number = right.id.number := by omega
  exact Identifier.mk.injEq .. ▸ sameNumber

/-- Of records in order that go by distinct identifiers, each one comes before those behind it. -/
theorem pairwise_before_inOrder {records : List EventRecord}
    (distinct : (records.map EventRecord.id).Nodup) :
    (inOrder records).Pairwise fun former later => former.before later = true := by
  have apart : ((inOrder records).map EventRecord.id).Nodup :=
    ((inOrder_perm records).map EventRecord.id).nodup_iff.mpr distinct
  refine ((pairwise_inOrder records).and (List.pairwise_map.mp apart)).imp ?_
  intro former later ⟨notAfter, differ⟩
  have numbers : former.id.number ≠ later.id.number := fun same =>
    differ (Identifier.mk.injEq .. ▸ same)
  simp only [Bool.not_eq_true', Bool.eq_false_iff, ne_eq, EventRecord.before_iff] at notAfter ⊢
  omega

/-- Records in order stay as they are when they are put in order again. -/
theorem inOrder_inOrder (records : List EventRecord) :
    inOrder (inOrder records) = inOrder records :=
  List.mergeSort_of_pairwise (pairwise_inOrder records)

/-! ## Deliveries by their identifiers -/

/-- Deliveries by identifier stand by ascending numbers. -/
theorem pairwise_byIdentifier (deliveries : List Delivery) :
    (byIdentifier deliveries).Pairwise fun left right =>
      left.event.number ≤ right.event.number := by
  have sorted : (byIdentifier deliveries).Pairwise fun left right =>
      decide (left.event.number ≤ right.event.number) = true := by
    apply List.pairwise_mergeSort
    · intro first second third
      simp only [decide_eq_true_eq]
      omega
    · intro left right
      simp only [Bool.or_eq_true, decide_eq_true_eq]
      omega
  exact sorted.imp of_decide_eq_true

/-- Deliveries of distinct records have only one order by their identifiers. -/
theorem byIdentifier_eq {deliveries ordered : List Delivery}
    (distinct : (deliveries.map Delivery.event).Nodup) (same : ordered.Perm deliveries)
    (inTurn : ordered.Pairwise fun left right => left.event.number ≤ right.event.number) :
    byIdentifier deliveries = ordered := by
  have sorted := List.mergeSort_perm deliveries fun left right =>
    left.event.number ≤ right.event.number
  refine List.Perm.eq_of_pairwise ?_ (pairwise_byIdentifier deliveries) inTurn
    (sorted.trans same.symm)
  intro left right leftInside rightInside forth back
  apply List.inj_on_of_nodup_map distinct (sorted.mem_iff.mp leftInside)
    (same.mem_iff.mp rightInside)
  have sameNumber : left.event.number = right.event.number := by omega
  exact Identifier.mk.injEq .. ▸ sameNumber

/-! ## The earliest moment -/

/-- The earlier one of two moments is one of them and comes up to both. -/
theorem earlier_spec (left right : Timestamp) :
    (earlier left right = left ∨ earlier left right = right) ∧
      (earlier left right).upTo left = true ∧ (earlier left right).upTo right = true := by
  rw [earlier]
  split
  · next sooner =>
    rw [Timestamp.before_iff] at sooner
    simp only [or_true, Timestamp.upTo_iff, true_and]
    omega
  · next notSooner =>
    rw [Timestamp.before_iff] at notSooner
    simp only [true_or, Timestamp.upTo_iff, true_and]
    omega

/-- The earliest of some moments is one of them and comes up to all of them.

Induct over the moments. What has been found so far comes up to those before, and the end comes up
to what has been found. -/
theorem earliest?_spec {moments : List Timestamp} {least : Timestamp}
    (found : earliest? moments = some least) :
    least ∈ moments ∧ ∀ moment ∈ moments, least.upTo moment = true := by
  cases moments with
  | nil => cases found
  | cons first rest =>
    obtain rfl := Option.some.inj found
    clear found
    induction rest generalizing first with
    | nil => exact ⟨List.mem_cons_self, by simpa using Timestamp.upTo_refl first⟩
    | cons next rest inductionHypothesis =>
      obtain ⟨one, upToFirst, upToNext⟩ := earlier_spec first next
      obtain ⟨member, least⟩ := inductionHypothesis (earlier first next)
      rw [List.foldl_cons]
      have upToEarlier := least _ List.mem_cons_self
      refine ⟨?_, ?_⟩
      · rcases List.mem_cons.mp member with same | later
        · rw [same]
          rcases one with isFirst | isNext
          · rw [isFirst]
            exact List.mem_cons_self
          · rw [isNext]
            exact List.mem_cons_of_mem _ List.mem_cons_self
        · exact List.mem_cons_of_mem _ (List.mem_cons_of_mem _ later)
      · intro moment inside
        rcases List.mem_cons.mp inside with rfl | others
        · exact Timestamp.upTo_trans upToEarlier upToFirst
        · rcases List.mem_cons.mp others with rfl | later
          · exact Timestamp.upTo_trans upToEarlier upToNext
          · exact least moment (List.mem_cons_of_mem _ later)

/-- Only one of some moments comes up to all of them. -/
theorem earliest?_eq_some {moments : List Timestamp} {least : Timestamp} (member : least ∈ moments)
    (first : ∀ moment ∈ moments, least.upTo moment = true) : earliest? moments = some least := by
  cases found : earliest? moments with
  | none =>
    cases moments with
    | nil => cases member
    | cons head rest => cases found
  | some other =>
    obtain ⟨inside, upToAll⟩ := earliest?_spec found
    have forth := first other inside
    have back := upToAll least member
    rw [Timestamp.upTo_iff] at forth back
    have seconds : other.seconds = least.seconds := by omega
    have nanos : other.nanos = least.nanos := by omega
    exact congrArg some (Timestamp.mk.injEq .. ▸ ⟨seconds, nanos⟩)

/-- There is no earliest moment only where there is none at all. -/
theorem earliest?_eq_none {moments : List Timestamp} (nothing : earliest? moments = none) :
    moments = [] := by
  cases moments with
  | nil => rfl
  | cons first rest => cases nothing

end MemoryStore

end Outbox
