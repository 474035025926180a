import Mathlib.Data.Finset.Card
import Mathlib.Data.List.Nodup
import Outbox.Table

/-!
# Look-ups in tables

What a table answers under an identifier determines what it holds, because no two rows share an
identifier. Each operation on tables is described by the look-ups in its result: putting a row
changes one look-up, erasing makes one of them empty, and filtering checks the row that was found.
Later proofs use these descriptions and not the order of the rows.
-/

namespace Outbox.Table

variable {Row : Type} {key : Row → Identifier}

/-- A row is found under an identifier exactly when the table holds it and it has that identifier.
Distinct identifiers rule out that another row is found first. -/
theorem find?_eq_some_iff (table : Table key) (id : Identifier) (row : Row) :
    table.find? id = some row ↔ row ∈ table.rows ∧ key row = id := by
  constructor
  · intro found
    have same : key row = id := by simpa using List.find?_some found
    exact ⟨List.mem_of_find?_eq_some found, same⟩
  · rintro ⟨member, same⟩
    have present : (table.find? id).isSome = true :=
      List.find?_isSome.mpr ⟨row, member, decide_eq_true same⟩
    obtain ⟨other, found⟩ := Option.isSome_iff_exists.mp present
    have otherMember : other ∈ table.rows := List.mem_of_find?_eq_some found
    have otherSame : key other = id := by simpa using List.find?_some found
    have equal : other = row :=
      List.inj_on_of_nodup_map table.distinct otherMember member (otherSame.trans same.symm)
    exact equal ▸ found

/-- A row that is found has the identifier under which it was looked for. -/
theorem key_of_find? {table : Table key} {id : Identifier} {row : Row}
    (found : table.find? id = some row) : key row = id :=
  ((find?_eq_some_iff table id row).mp found).2

/-- Every row of a table is found under its own identifier. -/
theorem find?_of_mem {table : Table key} {row : Row} (member : row ∈ table.rows) :
    table.find? (key row) = some row :=
  (find?_eq_some_iff table (key row) row).mpr ⟨member, rfl⟩

/-- The membership test says whether a row is found. -/
theorem contains_eq_isSome (table : Table key) (id : Identifier) :
    table.contains id = (table.find? id).isSome := by
  rw [Bool.eq_iff_iff, contains, find?, List.any_eq_true, List.find?_isSome]

/-- The empty table answers nothing. -/
@[simp] theorem find?_empty (id : Identifier) : (empty : Table key).find? id = none := rfl

/-- After filtering, the row that was found is found exactly when it satisfies the condition. -/
theorem find?_filter (table : Table key) (keep : Row → Bool) (id : Identifier) :
    (table.filter keep).find? id = (table.find? id).filter keep := by
  apply Option.ext
  intro row
  rw [find?_eq_some_iff, Option.filter_eq_some_iff, find?_eq_some_iff]
  change row ∈ table.rows.filter keep ∧ key row = id ↔ _
  rw [List.mem_filter]
  constructor
  · rintro ⟨⟨member, kept⟩, same⟩
    exact ⟨⟨member, same⟩, kept⟩
  · rintro ⟨⟨member, same⟩, kept⟩
    exact ⟨⟨member, kept⟩, same⟩

/-- After filtering, a row is held under an identifier exactly when the one that was found satisfies
the condition. -/
theorem contains_filter (table : Table key) (keep : Row → Bool) (id : Identifier) :
    (table.filter keep).contains id = (table.find? id).any keep := by
  rw [contains_eq_isSome, find?_filter, Option.isSome_filter]

/-- Two conditions that agree on the rows of a table keep the same rows. -/
theorem filter_congr {table : Table key} {keep other : Row → Bool}
    (same : ∀ row ∈ table.rows, keep row = other row) : table.filter keep = table.filter other := by
  simp only [filter, List.filter_congr same]

/-- Filtering twice keeps the rows that satisfy both conditions. -/
theorem filter_filter (table : Table key) (first second : Row → Bool) :
    (table.filter first).filter second = table.filter fun row => second row && first row := by
  simp only [filter, List.filter_filter]

/-- A condition parts the rows of a table into those that are kept and those that are not. -/
theorem size_filter_add (table : Table key) (drop : Row → Bool) :
    (table.filter fun row => !drop row).size + (table.filter drop).size = table.size := by
  rw [size, size, size, filter, filter, Nat.add_comm]
  exact (List.length_eq_length_filter_add drop).symm

/-- Erasing empties the look-up under one identifier and leaves every other one as it was. -/
theorem find?_erase (table : Table key) (id sought : Identifier) :
    (table.erase id).find? sought = if sought = id then none else table.find? sought := by
  rw [erase, find?_filter]
  cases found : table.find? sought with
  | none => simp
  | some row =>
    have same : key row = sought := key_of_find? found
    by_cases erased : sought = id
    · simp [same, erased]
    · simp [same, erased]

/-- The rows of a table after putting one are that row and those with another identifier. A row that
is put in the place of another one keeps that place, but this is not said here. -/
theorem mem_rows_put (table : Table key) (row other : Row) :
    other ∈ (table.put row).rows ↔ other = row ∨ other ∈ table.rows ∧ key other ≠ key row := by
  rw [put]
  split
  · next present =>
    change other ∈ table.rows.map (substitute key row) ↔ _
    rw [List.mem_map]
    constructor
    · rintro ⟨former, member, rfl⟩
      by_cases replaced : key former = key row
      · exact Or.inl (by simp [substitute, replaced])
      · exact Or.inr (by simpa [substitute, replaced] using member)
    · rintro (rfl | ⟨member, differs⟩)
      · rw [contains, List.any_eq_true] at present
        obtain ⟨former, member, same⟩ := present
        exact ⟨former, member, by simp [substitute, of_decide_eq_true same]⟩
      · exact ⟨other, member, by simp [substitute, differs]⟩
  · next absent =>
    change other ∈ table.rows ++ [row] ↔ _
    have fresh : ∀ former ∈ table.rows, key former ≠ key row := by
      simpa [contains] using absent
    rw [List.mem_append, List.mem_singleton]
    constructor
    · rintro (member | same)
      · exact Or.inr ⟨member, fresh other member⟩
      · exact Or.inl same
    · rintro (same | ⟨member, _⟩)
      · exact Or.inr same
      · exact Or.inl member

/-- Changes the row under an identifier, if there is one and a condition holds of it. -/
def changeIf (table : Table key) (id : Identifier) (holds : Row → Bool) (change : Row → Row) :
    Table key :=
  ((table.find? id).filter holds).elim table fun row => table.put (change row)

/-- A row of a table is the one with an identifier and a condition exactly when it is found under
the identifier and the condition holds of it. -/
theorem is_found_iff {table : Table key} {row : Row} (member : row ∈ table.rows) (id : Identifier)
    (holds : Row → Bool) :
    (key row = id && holds row) = true ↔ (table.find? id).filter holds = some row := by
  rw [Bool.and_eq_true, decide_eq_true_eq, Option.filter_eq_some_iff, find?_eq_some_iff]
  simp only [member, true_and]

/-- No more than one row has an identifier, so one is chosen when it is found and has to be. -/
theorem length_filter_eq_zero_iff (table : Table key) (id : Identifier) (holds : Row → Bool) :
    (table.rows.filter fun row => key row = id && holds row).length = 0 ↔
      (table.find? id).filter holds = none := by
  rw [List.length_eq_zero_iff, List.filter_eq_nil_iff, Option.eq_none_iff_forall_ne_some]
  constructor
  · intro misses row found
    have stored := ((find?_eq_some_iff _ _ _).mp (Option.filter_eq_some_iff.mp found).1).1
    exact misses row stored ((is_found_iff stored id holds).mpr found)
  · exact fun missing row stored hit => missing row ((is_found_iff stored id holds).mp hit)

/-- Changing the rows with an identifier and a condition, but not their identifiers, changes the one
that is found. -/
theorem map_eq_rows_changeIf (table : Table key) (id : Identifier) (holds : Row → Bool)
    {change : Row → Row} (sameKey : ∀ row, key (change row) = key row) :
    (table.rows.map fun row => if (key row = id && holds row) = true then change row else row) =
      (table.changeIf id holds change).rows := by
  rw [changeIf]
  cases found : (table.find? id).filter holds with
  | none =>
    refine (List.map_congr_left fun row stored => ?_).trans (List.map_id _)
    rw [if_neg]
    · rfl
    · rw [is_found_iff stored, found]
      exact (Option.some_ne_none row).symm
  | some former =>
    have stored := ((find?_eq_some_iff _ _ _).mp (Option.filter_eq_some_iff.mp found).1).1
    have present : table.contains (key (change former)) = true := by
      rw [sameKey, contains, List.any_eq_true]
      exact ⟨former, stored, decide_eq_true rfl⟩
    rw [Option.elim_some, put, dif_pos present]
    refine List.map_congr_left fun row member => ?_
    have hit := is_found_iff member id holds
    rw [found, Option.some_inj] at hit
    rw [substitute, sameKey]
    by_cases same : former = row
    · rw [if_pos (hit.mpr same), if_pos (congrArg key same.symm), same]
    · have apart : key row ≠ key former := fun sameKey =>
        same (List.inj_on_of_nodup_map table.distinct stored member sameKey.symm)
      rw [if_neg (mt hit.mp same), if_neg apart]

/-- Putting a row makes it the answer under its identifier and leaves every other look-up as it
was, whether the row takes the place of another one or is new. -/
theorem find?_put (table : Table key) (row : Row) (sought : Identifier) :
    (table.put row).find? sought =
      if sought = key row then some row else table.find? sought := by
  apply Option.ext
  intro other
  rw [find?_eq_some_iff, mem_rows_put]
  by_cases replaced : sought = key row
  · rw [if_pos replaced, Option.some.injEq]
    constructor
    · rintro ⟨equal | ⟨_, differs⟩, same⟩
      · exact equal.symm
      · exact absurd (same.trans replaced) differs
    · rintro rfl
      exact ⟨Or.inl rfl, replaced.symm⟩
  · rw [if_neg replaced, find?_eq_some_iff]
    constructor
    · rintro ⟨equal | ⟨member, _⟩, same⟩
      · exact absurd (by rw [← same, equal]) replaced
      · exact ⟨member, same⟩
    · rintro ⟨member, same⟩
      exact ⟨Or.inr ⟨member, fun equal => replaced (same.symm.trans equal)⟩, same⟩

/-- After putting several rows, the last one with an identifier is found under it; where there is
none, the table answers as before.

Induct over the rows. Each row is put before the later ones, so it is found only when no later
row has its identifier. -/
theorem find?_putAll (table : Table key) (rows : List Row) (sought : Identifier) :
    (table.putAll rows).find? sought =
      (rows.reverse.find? fun row => key row = sought).or (table.find? sought) := by
  induction rows generalizing table with
  | nil => rfl
  | cons row rest inductionHypothesis =>
    change ((table.put row).putAll rest).find? sought = _
    rw [inductionHypothesis, find?_put, List.reverse_cons, List.find?_append, Option.or_assoc]
    congr 1
    by_cases same : sought = key row
    · simp [same]
    · have differs : ¬ key row = sought := fun equal => same equal.symm
      simp [same, differs]

/-! ## Several new rows -/

/-- New rows do not take the place of a row that was there. -/
theorem find?_putAll_of_known {table : Table key} {rows : List Row}
    (fresh : ∀ row ∈ rows, table.find? (key row) = none) {id : Identifier} {known : Row}
    (found : table.find? id = some known) : (table.putAll rows).find? id = some known := by
  rw [find?_putAll]
  cases sought : rows.reverse.find? fun row => key row = id with
  | none => exact found
  | some row =>
    have same : key row = id := by simpa using List.find?_some sought
    have absent := fresh row (List.mem_reverse.mp (List.mem_of_find?_eq_some sought))
    rw [same, found] at absent
    cases absent

/-- An identifier is the one of some row exactly when a row is found under it. -/
theorem mem_keys_iff (table : Table key) (id : Identifier) :
    id ∈ table.rows.map key ↔ (table.find? id).isSome = true := by
  rw [← contains_eq_isSome, contains, List.any_eq_true, List.mem_map]
  simp only [decide_eq_true_eq]

/-- A table has as many rows as they have identifiers. -/
theorem card_keys (table : Table key) : (table.rows.map key).toFinset.card = table.size := by
  rw [List.toFinset_card_of_nodup table.distinct, List.length_map, size]

/-- The identifiers in a table after putting rows are those that were there and those of the
rows. -/
theorem keys_putAll (table : Table key) (rows : List Row) :
    ((table.putAll rows).rows.map key).toFinset =
      (table.rows.map key).toFinset ∪ (rows.map key).toFinset := by
  ext id
  rw [Finset.mem_union, List.mem_toFinset, List.mem_toFinset, List.mem_toFinset, mem_keys_iff,
    mem_keys_iff, find?_putAll, Option.isSome_or, Bool.or_eq_true, List.find?_isSome, List.mem_map,
    or_comm]
  simp only [List.mem_reverse, decide_eq_true_eq]

/-- New rows make a table larger by the number of their different identifiers. -/
theorem size_putAll {table : Table key} {rows : List Row}
    (fresh : ∀ row ∈ rows, table.find? (key row) = none) :
    (table.putAll rows).size = table.size + (rows.map key).dedup.length := by
  have apart : Disjoint (table.rows.map key).toFinset (rows.map key).toFinset := by
    rw [Finset.disjoint_right]
    intro id supplied known
    obtain ⟨row, member, rfl⟩ := List.mem_map.mp (List.mem_toFinset.mp supplied)
    have found := (mem_keys_iff table (key row)).mp (List.mem_toFinset.mp known)
    rw [fresh row member] at found
    cases found
  rw [← card_keys, keys_putAll, Finset.card_union_of_disjoint apart, card_keys, List.card_toFinset]

/-- New rows under distinct identifiers are found under them. -/
theorem find?_putAll_of_mem {table : Table key} {rows : List Row} (distinct : (rows.map key).Nodup)
    {row : Row} (member : row ∈ rows) : (table.putAll rows).find? (key row) = some row := by
  have present : (rows.reverse.find? fun other => key other = key row).isSome = true :=
    List.find?_isSome.mpr ⟨row, List.mem_reverse.mpr member, decide_eq_true rfl⟩
  obtain ⟨other, found⟩ := Option.isSome_iff_exists.mp present
  have inside : other ∈ rows := List.mem_reverse.mp (List.mem_of_find?_eq_some found)
  have same : key other = key row := by simpa using List.find?_some found
  rw [find?_putAll, found, Option.some_or, List.inj_on_of_nodup_map distinct inside member same]

/-- New rows under distinct identifiers are listed after the others, as they come.

Induct over the rows. When the first one has been put, the others are still new. -/
theorem rows_putAll {table : Table key} {rows : List Row} (distinct : (rows.map key).Nodup)
    (fresh : ∀ row ∈ rows, table.find? (key row) = none) :
    (table.putAll rows).rows = table.rows ++ rows := by
  induction rows generalizing table with
  | nil => exact (List.append_nil table.rows).symm
  | cons row rest inductionHypothesis =>
    obtain ⟨freshRow, freshRest⟩ := List.forall_mem_cons.mp fresh
    obtain ⟨apart, restDistinct⟩ := List.nodup_cons.mp distinct
    have absent : ¬ table.contains (key row) = true := by
      rw [contains_eq_isSome, freshRow]
      exact Bool.false_ne_true
    have atEnd : (table.put row).rows = table.rows ++ [row] := by rw [put, dif_neg absent]
    have stillFresh : ∀ other ∈ rest, (table.put row).find? (key other) = none := by
      intro other member
      have differs : key other ≠ key row := fun same =>
        apart (same ▸ List.mem_map_of_mem member)
      rw [find?_put, if_neg differs]
      exact freshRest other member
    change ((table.put row).putAll rest).rows = _
    rw [inductionHypothesis restDistinct stillFresh, atEnd, List.append_assoc,
      List.singleton_append]

/-! ## Rows in another order -/

/-- Tables hold the same rows, in whatever order, exactly if they answer alike under every
identifier. -/
theorem perm_iff_find?_eq {left right : Table key} :
    left.rows.Perm right.rows ↔ ∀ id, left.find? id = right.find? id := by
  constructor
  · intro same id
    apply Option.ext
    intro row
    rw [find?_eq_some_iff, find?_eq_some_iff, same.mem_iff]
  · intro alike
    rw [List.perm_ext_iff_of_nodup left.distinct.of_map right.distinct.of_map]
    intro row
    have ofMember (table other : Table key) (alike : ∀ id, table.find? id = other.find? id)
        (member : row ∈ table.rows) : row ∈ other.rows :=
      ((find?_eq_some_iff _ _ _).mp ((alike _).symm.trans (find?_of_mem member))).1
    exact ⟨ofMember left right alike, ofMember right left fun id => (alike id).symm⟩

/-- Putting rows one after the other into tables with the same rows leads to the same rows. -/
theorem perm_putAll {left right : Table key} (same : left.rows.Perm right.rows) (rows : List Row) :
    (left.putAll rows).rows.Perm (right.putAll rows).rows := by
  rw [perm_iff_find?_eq] at *
  intro id
  rw [find?_putAll, find?_putAll, same]

/-- A table filled with rows under distinct identifiers holds these rows, in whatever order they
came in. -/
theorem perm_ofList {left right : List Row} (distinct : (left.map key).Nodup)
    (same : left.Perm right) :
    (ofList left : Table key).rows.Perm (ofList right : Table key).rows := by
  have rows {filling : List Row} (distinct : (filling.map key).Nodup) :
      (ofList filling : Table key).rows = filling :=
    rows_putAll distinct fun _ _ => rfl
  rw [rows distinct, rows ((same.map key).nodup_iff.mp distinct)]
  exact same

/-- Tables with the same rows still have the same rows when a row is put into both. -/
theorem perm_put {left right : Table key} (same : left.rows.Perm right.rows) (row : Row) :
    (left.put row).rows.Perm (right.put row).rows :=
  perm_putAll same [row]

end Outbox.Table
