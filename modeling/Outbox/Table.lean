import Outbox.Identifier

/-!
# Tables

A table holds rows that are named by identifiers, one row for each. The rows are listed in the
order in which their identifiers came in, and every operation says what it does to the row found
under an identifier.
-/

namespace Outbox

/-- Rows under distinct identifiers. -/
structure Table {Row : Type} (key : Row → Identifier) where
  rows : List Row
  distinct : (rows.map key).Nodup

namespace Table

variable {Row : Type} {key : Row → Identifier}

/-- The table without rows. -/
def empty : Table key := ⟨[], List.nodup_nil⟩

instance : Inhabited (Table key) := ⟨empty⟩

/-- The row under an identifier. -/
def find? (table : Table key) (id : Identifier) : Option Row :=
  table.rows.find? fun row => key row = id

/-- Whether there is a row under an identifier. -/
def contains (table : Table key) (id : Identifier) : Bool :=
  table.rows.any fun row => key row = id

/-- The number of rows. -/
def size (table : Table key) : Nat :=
  table.rows.length

/-- The rows that satisfy a condition. -/
def filter (table : Table key) (keep : Row → Bool) : Table key :=
  ⟨table.rows.filter keep, table.distinct.sublist (List.filter_sublist.map key)⟩

/-- The table without the row under an identifier. -/
def erase (table : Table key) (id : Identifier) : Table key :=
  table.filter fun row => key row ≠ id

/-- A row in the place of the one with its identifier, and each other row as it is. -/
def substitute (key : Row → Identifier) (row other : Row) : Row :=
  if key other = key row then row else other

theorem key_substitute (row other : Row) : key (substitute key row other) = key other := by
  rw [substitute]
  split
  · next same => exact same.symm
  · rfl

theorem map_key_substitute (row : Row) (rows : List Row) :
    (rows.map (substitute key row)).map key = rows.map key := by
  rw [List.map_map]
  exact List.map_congr_left fun other _ => key_substitute row other

/-- The table with a row under its identifier, in the place of the one that was there or at the
    end. -/
def put (table : Table key) (row : Row) : Table key :=
  if present : table.contains (key row) then
    ⟨table.rows.map (substitute key row), by rw [map_key_substitute]; exact table.distinct⟩
  else
    ⟨table.rows ++ [row], by
      have absent : ∀ other ∈ table.rows, key other ≠ key row := by
        simpa [contains] using present
      rw [List.map_append, List.nodup_append]
      refine ⟨table.distinct, by simp, fun left inside right only => ?_⟩
      obtain ⟨other, member, rfl⟩ := List.mem_map.1 inside
      rw [List.map_singleton, List.mem_singleton] at only
      exact only ▸ absent other member⟩

/-- Puts rows one after the other, so that of several under one identifier the last one stays. -/
def putAll (table : Table key) (rows : List Row) : Table key :=
  rows.foldl put table

/-- The table of some rows; of several under one identifier the last one stays. -/
def ofList (rows : List Row) : Table key :=
  empty.putAll rows

end Table

end Outbox
