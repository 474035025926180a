import Outbox.Proofs.Order
import Outbox.Proofs.Table

/-!
# The backlog in numbers and in the list

Operators learn about the backlog in two ways. The statistics go once through the stored records, in
whatever order these are kept, and count them and look for the earliest creation. The list picks the
records of a status and puts them in the order of delivery. The two agree: the numbers are the
lengths of the lists, and the earliest creation is that of the first pending record in the list.
-/

namespace Outbox

open Calendar

/-! ## Who has been waiting longest -/

/-- A record that does not come after another one was not created after it. -/
theorem EventRecord.created_upTo {left right : EventRecord}
    (inTurn : (!right.before left) = true) : left.created.upTo right.created = true := by
  simp only [Bool.not_eq_true', Bool.eq_false_iff, ne_eq, before_iff] at inTurn
  rw [Timestamp.upTo_iff]
  omega

namespace MemoryStore

/-- The first of some records in the order of delivery was created no later than any of them. -/
theorem created_of_first {records : List EventRecord} {first : EventRecord}
    {rest : List EventRecord} (ordered : inOrder records = first :: rest) :
    first ∈ records ∧
      ∀ record ∈ records, first.created.upTo record.created = true := by
  have inTurn := pairwise_inOrder records
  rw [ordered, List.pairwise_cons] at inTurn
  constructor
  · rw [← mem_inOrder, ordered]
    exact List.mem_cons_self
  · intro record member
    rw [← mem_inOrder, ordered] at member
    rcases List.mem_cons.mp member with rfl | later
    · exact Timestamp.upTo_refl record.created
    · exact EventRecord.created_upTo (inTurn.1 record later)

/-- The earliest creation among some records is that of the first one of them in the order of
delivery. -/
theorem earliest?_created (records : List EventRecord) :
    earliest? (records.map EventRecord.created) =
      (inOrder records).head?.map EventRecord.created := by
  cases ordered : inOrder records with
  | nil =>
    have nothing : records = [] := by
      rw [← List.length_eq_zero_iff, ← (inOrder_perm records).length_eq, ordered]
      rfl
    rw [nothing]
    rfl
  | cons first rest =>
    obtain ⟨member, least⟩ := created_of_first ordered
    exact earliest?_eq_some (List.mem_map_of_mem member) (by simpa using least)

/-! ## Numbers and lists -/

variable {store : MemoryStore}

/-- The records of a status in the order of delivery. -/
def listing (store : MemoryStore) (status : EventStatus) : List EventRecord :=
  inOrder (store.records.rows.filter fun record => record.status = status)

/-- An available store answers with its listing of a status. -/
theorem findByStatus_of_available (available : store.available = true) (status : EventStatus) :
    store.findByStatus status = .ok (store.listing status) := by
  rw [findByStatus, whenAvailable, if_pos available]
  rfl

/-- The statistics of an available store are the lengths of the lists and the creation of the first
pending record. -/
theorem statistics_of_available (available : store.available = true) :
    store.statistics = .ok {
      pending := (store.listing .pending).length
      sent := (store.listing .sent).length
      oldestPendingCreated := (store.listing .pending).head?.map EventRecord.created } := by
  rw [statistics, whenAvailable, if_pos available, earliest?_created, listing, listing,
    (inOrder_perm _).length_eq, (inOrder_perm _).length_eq]

/-- A list has each stored record of its status exactly once. -/
theorem mem_listing (store : MemoryStore) (status : EventStatus) :
    ((store.listing status).map EventRecord.id).Nodup ∧
      ∀ record, record ∈ store.listing status ↔
        store.records.find? record.id = some record ∧ record.status = status := by
  constructor
  · have sublist := (List.filter_sublist (p := fun record : EventRecord => record.status = status)
      (l := store.records.rows)).map EventRecord.id
    exact ((inOrder_perm _).map EventRecord.id).nodup_iff.mpr
      (store.records.distinct.sublist sublist)
  · intro record
    rw [listing, mem_inOrder, List.mem_filter, decide_eq_true_eq, Table.find?_eq_some_iff]
    simp

/-- Every stored record is in one of the two lists. -/
theorem length_listings (store : MemoryStore) :
    (store.listing .pending).length + (store.listing .sent).length = store.records.size := by
  have other : (fun record : EventRecord => decide (record.status = .sent)) =
      fun record => !decide (record.status = .pending) := by
    funext record
    cases record.status <;> rfl
  rw [listing, listing, (inOrder_perm _).length_eq, (inOrder_perm _).length_eq, other, Table.size]
  exact (List.length_eq_length_filter_add _).symm

/-- The age of what was created at a moment: the whole seconds that have passed, and zero for what
is from the future. -/
theorem max_secondsSince (now created : Timestamp) :
    max (now.secondsSince created) 0 = max (now.nanosSince created) 0 / nanosPerSecond := by
  rw [Timestamp.secondsSince]
  rcases Int.le_total 0 (now.nanosSince created) with passed | future
  · rw [Int.tdiv_eq_ediv_of_nonneg passed, Int.max_eq_left passed]
    exact Int.max_eq_left (Int.ediv_nonneg passed (by decide))
  · have none : (now.nanosSince created).tdiv nanosPerSecond ≤ 0 := by
      simpa using Int.tdiv_le_tdiv (by decide : 0 < (nanosPerSecond : Int)) future
    rw [Int.max_eq_right future, Int.zero_ediv]
    exact Int.max_eq_right none

/-- The statistics agree with the lists, whatever the store holds and in whatever order it is kept.

Each list has every stored record of its status exactly once. The statistics count the two lists,
which together are as long as the store is large, and tell the creation of the first pending record,
unless there is none. So at any moment the age that they tell is that of this first record, and
outside of leap seconds no pending record is older. -/
theorem statistics_agree_with_lists (store : MemoryStore) (available : store.available = true) :
    ∃ statistics pending sent, store.statistics = .ok statistics ∧
      store.findByStatus .pending = .ok pending ∧ store.findByStatus .sent = .ok sent ∧
      statistics.pending = pending.length ∧ statistics.sent = sent.length ∧
      statistics.pending + statistics.sent = store.records.size ∧
      statistics.oldestPendingCreated = pending.head?.map EventRecord.created ∧
      (statistics.oldestPendingCreated = none ↔ pending = []) ∧
      (∀ status listed, store.findByStatus status = .ok listed →
        (listed.map EventRecord.id).Nodup ∧
          ∀ record, record ∈ listed ↔
            store.records.find? record.id = some record ∧ record.status = status) ∧
      ∀ now,
        (statistics.oldestPendingAge now = pending.head?.map fun first =>
          max (now.nanosSince first.created) 0 / nanosPerSecond) ∧
        ∀ first ∈ pending.head?, ∀ record ∈ pending, now.isLeap = false →
          first.created.isLeap = false → record.created.isLeap = false →
            max (now.nanosSince record.created) 0 / nanosPerSecond ≤
              max (now.nanosSince first.created) 0 / nanosPerSecond := by
  refine ⟨_, _, _, statistics_of_available available, findByStatus_of_available available _,
    findByStatus_of_available available _, rfl, rfl, store.length_listings, rfl, ?_, ?_, ?_⟩
  · rw [Option.map_eq_none_iff, List.head?_eq_none_iff]
  · intro status listed found
    rw [findByStatus_of_available available, Except.ok.injEq] at found
    exact found ▸ store.mem_listing status
  · intro now
    constructor
    · simp only [Statistics.oldestPendingAge, Option.map_map, Function.comp_def, max_secondsSince]
    · intro first isFirst record member plain firstPlain recordPlain
      obtain ⟨rest, ordered⟩ := List.head?_eq_some_iff.mp isFirst
      rw [listing, mem_inOrder] at member
      have created := (created_of_first ordered).2 record member
      have passed := Timestamp.nanosSince_le plain firstPlain recordPlain created
      exact Int.ediv_le_ediv (by decide) (by omega)

/-- A record that is pending since second 10. -/
def earlyRecord : EventRecord :=
  { (default : EventRecord) with id := .ofNumber 2, created := ⟨10, 0, by decide⟩ }

/-- A record that is pending since second 20. -/
def lateRecord : EventRecord :=
  { (default : EventRecord) with id := .ofNumber 1, created := ⟨20, 0, by decide⟩ }

/-- A store to which the two came in the wrong order, and which holds a record that has been
sent. -/
def lateComer : MemoryStore := { empty with
  records := .ofList [lateRecord, earlyRecord, { (default : EventRecord) with status := .sent }] }

/-- At second 45 the store tells an age of 35 seconds, as the record that came in later is the first
one in the list, and the other record is no older than that. -/
theorem lateComer_counted :
    let now : Timestamp := ⟨45, 0, by decide⟩
    lateComer.available = true ∧
    ∃ statistics, lateComer.statistics = .ok statistics ∧
      lateComer.findByStatus .pending = .ok [earlyRecord, lateRecord] ∧
      statistics.pending = 2 ∧ statistics.pending + statistics.sent = 3 ∧
      statistics.oldestPendingAge now = some 35 ∧
      max (now.nanosSince lateRecord.created) 0 / nanosPerSecond ≤ 35 := by
  intro now
  have ordered : lateComer.listing .pending = [earlyRecord, lateRecord] :=
    inOrder_eq (by decide) (List.Perm.swap ..) (by decide)
  obtain ⟨statistics, pending, sent, counted, listed, -, many, -, all, -, -, -, aged⟩ :=
    statistics_agree_with_lists lateComer rfl
  obtain rfl : [earlyRecord, lateRecord] = pending := by
    rw [findByStatus_of_available rfl, ordered] at listed
    exact Except.ok.inj listed
  have passed : max (now.nanosSince earlyRecord.created) 0 / nanosPerSecond = 35 := by decide
  obtain ⟨age, oldest⟩ := aged now
  have notOlder := oldest earlyRecord rfl lateRecord (by simp) rfl rfl rfl
  rw [List.head?_cons, Option.map_some, passed] at age
  rw [passed] at notOlder
  exact ⟨rfl, statistics, counted, listed, many, all, age, notOlder⟩

end MemoryStore

end Outbox
