/-!
# Dictionaries

A dictionary holds at most one value under each text key and lists its entries by ascending key,
so two dictionaries with the same contents are equal. Category names, metadata and settings are
dictionaries.

The entries are a plain list in strict order of their keys. `find?_insert` says what an insertion
does to every look-up, and `ext_find?` that the look-ups determine the dictionary.
-/

namespace Outbox

/-- Puts a value under a key of a list of entries in strict order of their keys. A value that
    was there before is replaced. -/
def insertEntry {Value : Type} (key : String) (value : Value) :
    List (String × Value) → List (String × Value)
  | [] => [(key, value)]
  | (head, held) :: rest =>
    if key < head then (key, value) :: (head, held) :: rest
    else if key = head then (key, value) :: rest
    else (head, held) :: insertEntry key value rest

/-- The value under a key of a list of entries; the first one counts. -/
def lookUp? {Value : Type} (key : String) : List (String × Value) → Option Value
  | [] => none
  | (head, held) :: rest => if key = head then some held else lookUp? key rest

/-- Every entry's key is below the keys of all later entries. -/
def StrictKeys {Value : Type} (entries : List (String × Value)) : Prop :=
  entries.Pairwise fun left right => left.1 < right.1

variable {Value : Type}

theorem mem_insertEntry {key : String} {value : Value} {entry : String × Value}
    {entries : List (String × Value)} (inside : entry ∈ insertEntry key value entries) :
    entry = (key, value) ∨ entry ∈ entries := by
  induction entries with
  | nil => simpa [insertEntry] using inside
  | cons head rest recurse =>
    obtain ⟨headKey, held⟩ := head
    rw [insertEntry] at inside
    split at inside
    · simpa using inside
    · split at inside
      · rcases List.mem_cons.1 inside with equal | later
        · exact .inl equal
        · exact .inr (List.mem_cons_of_mem _ later)
      · rcases List.mem_cons.1 inside with equal | later
        · exact .inr (equal ▸ List.mem_cons_self)
        · exact (recurse later).imp_right (List.mem_cons_of_mem _)

theorem strictKeys_insertEntry (key : String) (value : Value) {entries : List (String × Value)}
    (strict : StrictKeys entries) : StrictKeys (insertEntry key value entries) := by
  induction entries with
  | nil => simp [insertEntry, StrictKeys]
  | cons head rest recurse =>
    obtain ⟨headKey, held⟩ := head
    obtain ⟨above, restStrict⟩ := List.pairwise_cons.1 strict
    rw [insertEntry]
    split
    · next below =>
      refine List.pairwise_cons.2 ⟨fun entry inside => ?_, strict⟩
      rcases List.mem_cons.1 inside with equal | later
      · exact equal ▸ below
      · exact String.lt_trans below (above entry later)
    · next notBelow =>
      split
      · next same =>
        exact List.pairwise_cons.2 ⟨fun entry inside => same ▸ above entry inside, restStrict⟩
      · next differs =>
        refine List.pairwise_cons.2 ⟨fun entry inside => ?_, recurse restStrict⟩
        rcases mem_insertEntry inside with equal | later
        · subst equal
          rcases Decidable.em (headKey < key) with below | notAbove
          · exact below
          · exact absurd (String.le_antisymm (String.not_lt.1 notAbove)
              (String.not_lt.1 notBelow)) differs
        · exact above entry later

theorem lookUp?_insertEntry (key sought : String) (value : Value)
    (entries : List (String × Value)) :
    lookUp? sought (insertEntry key value entries) =
      if sought = key then some value else lookUp? sought entries := by
  induction entries with
  | nil => simp [insertEntry, lookUp?]
  | cons head rest recurse =>
    obtain ⟨headKey, held⟩ := head
    rw [insertEntry]
    split
    · simp [lookUp?]
    · split
      · next same => subst same; by_cases found : sought = key <;> simp [lookUp?, found]
      · next differs =>
        by_cases found : sought = headKey
        · subst found
          simp [lookUp?, Ne.symm differs]
        · simp [lookUp?, found, recurse]

/-- A key below every key of a list is under none of its entries. -/
theorem lookUp?_eq_none {key : String} {entries : List (String × Value)}
    (below : ∀ entry ∈ entries, key < entry.1) : lookUp? key entries = none := by
  induction entries with
  | nil => rfl
  | cons head rest recurse =>
    obtain ⟨headKey, held⟩ := head
    have differs : key ≠ headKey := fun same =>
      String.lt_irrefl key (same ▸ below _ List.mem_cons_self)
    rw [lookUp?, if_neg differs]
    exact recurse fun entry inside => below entry (List.mem_cons_of_mem _ inside)

/-- Strictly ordered entries are determined by what is found under each key: both lists start
    with the least key found. -/
theorem eq_of_lookUp? {left right : List (String × Value)} (leftStrict : StrictKeys left)
    (rightStrict : StrictKeys right) (same : ∀ key, lookUp? key left = lookUp? key right) :
    left = right := by
  induction left generalizing right with
  | nil =>
    cases right with
    | nil => rfl
    | cons head rest => simpa [lookUp?] using same head.1
  | cons head rest recurse =>
    obtain ⟨headKey, held⟩ := head
    cases right with
    | nil => simpa [lookUp?] using same headKey
    | cons head' rest' =>
      obtain ⟨headKey', held'⟩ := head'
      obtain ⟨above, restStrict⟩ := List.pairwise_cons.1 leftStrict
      obtain ⟨above', restStrict'⟩ := List.pairwise_cons.1 rightStrict
      have headSame : headKey = headKey' := by
        rcases Decidable.em (headKey = headKey') with equal | differs
        · exact equal
        · have found := same headKey
          have found' := same headKey'
          rw [lookUp?, if_pos rfl, lookUp?, if_neg differs] at found
          rw [lookUp?, if_neg (Ne.symm differs), lookUp?, if_pos rfl] at found'
          rcases String.le_total headKey headKey' with order | order
          · have none : lookUp? headKey rest' = none := lookUp?_eq_none fun entry inside =>
              String.not_le.1 fun reverse => by
                have := above' entry inside
                exact differs (String.le_antisymm order
                  (String.le_trans (String.not_lt.1 (String.lt_asymm this)) reverse))
            simp [none] at found
          · have none : lookUp? headKey' rest = none := lookUp?_eq_none fun entry inside =>
              String.not_le.1 fun reverse => by
                have := above entry inside
                exact differs (String.le_antisymm
                  (String.le_trans (String.not_lt.1 (String.lt_asymm this)) reverse) order)
            simp [none] at found'
      subst headSame
      have heldSame : held = held' := by simpa [lookUp?] using same headKey
      subst heldSame
      have restSame : rest = rest' := by
        refine recurse restStrict restStrict' fun key => ?_
        rcases Decidable.em (key = headKey) with equal | differs
        · subst equal
          rw [lookUp?_eq_none above, lookUp?_eq_none above']
        · simpa [lookUp?, differs] using same key
      rw [restSame]

/-- Text keys with one value each, listed by ascending key. -/
structure Dictionary (Value : Type) where
  /-- The entries in their order. -/
  entries : List (String × Value)
  /-- The keys ascend, and so no key comes twice. -/
  strict : StrictKeys entries

namespace Dictionary

/-- The dictionary without entries. -/
def empty : Dictionary Value := ⟨[], List.Pairwise.nil⟩

instance : Inhabited (Dictionary Value) := ⟨empty⟩

instance [DecidableEq Value] : DecidableEq (Dictionary Value) := fun left right =>
  decidable_of_iff (left.entries = right.entries)
    ⟨fun same => by cases left; cases right; simp_all, fun same => same ▸ rfl⟩

/-- The value under a key. -/
def find? (dictionary : Dictionary Value) (key : String) : Option Value :=
  lookUp? key dictionary.entries

/-- The dictionary with a value put under a key, whatever was there before. -/
def insert (dictionary : Dictionary Value) (key : String) (value : Value) : Dictionary Value :=
  ⟨insertEntry key value dictionary.entries, strictKeys_insertEntry key value dictionary.strict⟩

/-- Inserts entries one after the other, so that of several under one key the last one stays. -/
def insertMany (dictionary : Dictionary Value) (entries : List (String × Value)) :
    Dictionary Value :=
  entries.foldl (fun built entry => built.insert entry.1 entry.2) dictionary

/-- The dictionary of some entries; of several under one key the last one stays. -/
def ofList (entries : List (String × Value)) : Dictionary Value :=
  empty.insertMany entries

/-- The number of entries. -/
def size (dictionary : Dictionary Value) : Nat :=
  dictionary.entries.length

theorem find?_insert (dictionary : Dictionary Value) (key sought : String) (value : Value) :
    (dictionary.insert key value).find? sought =
      if sought = key then some value else dictionary.find? sought :=
  lookUp?_insertEntry key sought value dictionary.entries

theorem find?_empty (sought : String) : (empty : Dictionary Value).find? sought = none := rfl

/-- Two dictionaries in which every key finds the same are equal. -/
theorem ext_find? {left right : Dictionary Value} (same : ∀ key, left.find? key = right.find? key) :
    left = right := by
  obtain ⟨entries, strict⟩ := left
  obtain ⟨entries', strict'⟩ := right
  have := eq_of_lookUp? strict strict' same
  simp_all

theorem ext_entries {left right : Dictionary Value} (same : left.entries = right.entries) :
    left = right := by
  cases left; cases right; simp_all

end Dictionary

end Outbox
