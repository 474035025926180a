import Mathlib.Data.List.Dedup
import Outbox.Proofs.Store.Changes

/-!
# Records that come in together

The records of a unit of work come in together or not at all. They are refused when the store is
unavailable or when one of their identifiers is taken, and a refusal leaves the store as it was.

Whether an identifier is taken is asked of the store as it was before, so two records of one unit of
work under the same identifier are not refused. The later one of them is stored in the place of the
earlier one, which is then nowhere although the unit of work has been answered with it.
-/

namespace Outbox

namespace MemoryStore

variable {store : MemoryStore} {batch : List EventRecord}

/-- An unavailable store refuses every batch. -/
theorem insertAll_of_unavailable (unavailable : store.available = false)
    (batch : List EventRecord) : store.insertAll batch = .error outage := by
  rw [insertAll, whenAvailable, unavailable]
  rfl

/-- A batch is refused with the first of its records whose identifier is taken. -/
theorem insertAll_of_known (available : store.available = true) {known : EventRecord}
    (found : (batch.find? fun record => store.records.contains record.id) = some known) :
    store.insertAll batch = .error (.duplicate known.id) := by
  rw [insertAll, whenAvailable, if_pos available, found]

/-- A batch none of whose identifiers is taken comes in. -/
theorem insertAll_of_fresh (available : store.available = true)
    (fresh : ∀ record ∈ batch, store.records.find? record.id = none) :
    store.insertAll batch = .ok { store with records := store.records.putAll batch } := by
  have unknown : (batch.find? fun record => store.records.contains record.id) = none := by
    rw [List.find?_eq_none]
    intro record member
    rw [Table.contains_eq_isSome, fresh record member]
    exact Bool.false_ne_true
  rw [insertAll, whenAvailable, if_pos available, unknown]

/-- A batch is refused exactly when the store is unavailable or one of its identifiers is taken.
Whether an identifier occurs twice within the batch is not looked at. -/
theorem insertAll_refused_iff (store : MemoryStore) (batch : List EventRecord) :
    (∃ error, store.insertAll batch = .error error) ↔
      store.available = false ∨
        ∃ record ∈ batch, ∃ stored, store.records.find? record.id = some stored := by
  constructor
  · rintro ⟨error, refused⟩
    by_contra accepted
    obtain ⟨available, fresh⟩ := not_or.mp accepted
    have absent : ∀ record ∈ batch, store.records.find? record.id = none := by
      intro record member
      rw [Option.eq_none_iff_forall_ne_some]
      intro stored found
      exact fresh ⟨record, member, stored, found⟩
    rw [insertAll_of_fresh (eq_true_of_ne_false available) absent] at refused
    cases refused
  · rintro (unavailable | ⟨record, member, stored, found⟩)
    · exact ⟨outage, insertAll_of_unavailable unavailable batch⟩
    · cases outcome : store.insertAll batch with
      | error error => exact ⟨error, rfl⟩
      | ok next =>
        have absent := (insertAll_ok outcome).1 record member
        rw [found] at absent
        cases absent

end MemoryStore

namespace UnitOfWork

variable {work : UnitOfWork} {store : MemoryStore}

/-- A unit of work whose records are refused fails with the refusal and changes nothing. -/
theorem commit_of_refused {error : StoreError}
    (refused : store.insertAll work.staged = .error error) :
    work.commit store = .error error ∧
      store.changed (work.commit store) = (.error error, store) := by
  rw [commit, refused]
  exact ⟨rfl, rfl⟩

/-- A unit of work whose records come in is answered with them. -/
theorem commit_of_inserted {next : MemoryStore}
    (inserted : store.insertAll work.staged = .ok next) :
    work.commit store = .ok (work.staged, next) ∧
      store.changed (work.commit store) = (.ok work.staged, next) := by
  rw [commit, inserted]
  exact ⟨rfl, rfl⟩

/-- What a commit does, for every unit of work and every store.

An unavailable store refuses it, and so does a store where an identifier is taken: then the first
staged record whose identifier is taken is named, and nothing changes. Otherwise the commit succeeds
with the staged records. Under each identifier the last one that was staged is stored, the store
grows by the number of different identifiers, and the other records stay.

So a commit that succeeds has stored each of its records, and as many as were staged, exactly when
no identifier was staged twice. -/
theorem commit_outcome (work : UnitOfWork) (store : MemoryStore) :
    (store.available = false →
      store.changed (work.commit store) = (.error MemoryStore.outage, store)) ∧
    (store.available = true →
      (∀ known, (work.staged.find? fun record => store.records.contains record.id) = some known →
        store.changed (work.commit store) = (.error (.duplicate known.id), store)) ∧
      ((∀ record ∈ work.staged, store.records.find? record.id = none) →
        ∃ after, store.changed (work.commit store) = (.ok work.staged, after) ∧
          after.available = true ∧ after.deliveries = store.deliveries ∧
          (∀ event, after.records.find? event =
            (work.staged.reverse.find? fun record => record.id = event).or
              (store.records.find? event)) ∧
          after.records.size =
            store.records.size + (work.staged.map EventRecord.id).dedup.length ∧
          ((∀ record ∈ work.staged, after.records.find? record.id = some record) ∧
              after.records.size = store.records.size + work.staged.length ↔
            (work.staged.map EventRecord.id).Nodup))) := by
  refine ⟨?_, fun available => ⟨?_, ?_⟩⟩
  · intro unavailable
    exact (commit_of_refused (MemoryStore.insertAll_of_unavailable unavailable _)).2
  · intro known found
    exact (commit_of_refused (MemoryStore.insertAll_of_known available found)).2
  · intro fresh
    have inserted := MemoryStore.insertAll_of_fresh available fresh
    have size : (store.records.putAll work.staged).size =
        store.records.size + (work.staged.map EventRecord.id).dedup.length :=
      Table.size_putAll fresh
    refine ⟨_, (commit_of_inserted inserted).2, available, rfl, ?_, size, ?_⟩
    · intro event
      exact Table.find?_putAll store.records work.staged event
    · constructor
      · rintro ⟨_, grown⟩
        have asMany : (work.staged.map EventRecord.id).dedup.length =
            (work.staged.map EventRecord.id).length := by
          rw [List.length_map]
          exact Nat.add_left_cancel (size.symm.trans grown)
        have same : (work.staged.map EventRecord.id).dedup = work.staged.map EventRecord.id :=
          (List.dedup_sublist _).eq_of_length asMany
        exact List.dedup_eq_self.mp same
      · intro distinct
        refine ⟨fun record member => Table.find?_putAll_of_mem distinct member, size.trans ?_⟩
        rw [distinct.dedup, List.length_map]

/-- A unit of work with two records under one identifier. -/
def stagedTwice : UnitOfWork :=
  ((begin.insert default).insert { (default : EventRecord) with eventName := "renamed" })

/-- It commits, is answered with both records, and stores only the later one. -/
theorem staged_twice_loses_record :
    ∃ after, stagedTwice.commit .empty = .ok (stagedTwice.staged, after) ∧
      stagedTwice.staged.length = 2 ∧ after.records.size = 1 ∧
      default ∈ stagedTwice.staged ∧ after.records.find? default ≠ some default := by
  refine ⟨{ MemoryStore.empty with records := Table.empty.putAll stagedTwice.staged }, rfl, rfl,
    rfl, List.mem_cons_self, ?_⟩
  intro kept
  have names := congrArg (Option.map EventRecord.eventName) kept
  revert names
  decide

end UnitOfWork

end Outbox
