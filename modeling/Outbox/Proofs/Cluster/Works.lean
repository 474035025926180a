import Mathlib.Data.List.Induction
import Outbox.Proofs.Cluster.Basic

/-!
# Units of work in a cluster

Any number of units of work are open at once. What one of them has staged was inserted into it, one
record by each move, so every record that comes into the store was supplied by a producer: it was
either saved, or inserted into the unit of work that brought it in.
-/

namespace Outbox

namespace Cluster

/-- An open unit of work was open before a move with the same records, has just begun, or has just
got one more record. -/
theorem work_perform (cluster : Cluster) (move : Move) {work : Nat} {unit : UnitOfWork}
    (opened : (cluster.perform move).works work = some unit) :
    cluster.works work = some unit ∨ unit = .begin ∨
      ∃ previous record, move = .insert work record ∧ cluster.works work = some previous ∧
        unit = previous.insert record := by
  cases move with
  | start number dispatcher isLeader now =>
    left
    rw [perform] at opened
    cases found : cluster.dispatchers[dispatcher]? <;> simpa [found] using opened
  | advance number names =>
    left
    rw [perform] at opened
    rcases waiting : cluster.tasks number with _ | ⟨dispatcher, _ | ⟨request, next⟩⟩ <;>
      simpa [waiting, resume] using opened
  | retain isLeader span now => exact Or.inl opened
  | save record => exact Or.inl opened
  | begin other =>
    change Function.update cluster.works other (some .begin) work = some unit at opened
    by_cases same : work = other
    · rw [same, Function.update_self] at opened
      exact Or.inr (Or.inl (Option.some.inj opened).symm)
    · rw [Function.update_of_ne same] at opened
      exact Or.inl opened
  | insert other record =>
    change Function.update cluster.works other ((cluster.works other).map (·.insert record)) work =
      some unit at opened
    by_cases same : work = other
    · rw [← same, Function.update_self, Option.map_eq_some_iff] at opened
      obtain ⟨previous, found, grown⟩ := opened
      exact Or.inr (Or.inr ⟨previous, record, by rw [same], found, grown.symm⟩)
    · rw [Function.update_of_ne same] at opened
      exact Or.inl opened
  | commit other =>
    left
    rw [perform] at opened
    cases found : cluster.works other with
    | none => simpa [found] using opened
    | some committed =>
      by_cases same : work = other
      · simp [found, same] at opened
      · simpa [found, Function.update_of_ne same] using opened
  | abandon other =>
    change Function.update cluster.works other none work = some unit at opened
    by_cases same : work = other
    · rw [same, Function.update_self] at opened
      cases opened
    · rw [Function.update_of_ne same] at opened
      exact Or.inl opened
  | requeue event now => exact Or.inl opened
  | disturb faults available outage failing latency => exact Or.inl opened

/-- A unit of work has staged only what was inserted into it. The induction is on the moves, from
the last one backwards. -/
theorem staged_was_inserted (dispatchers : List Dispatcher) (moves : List Move) {work : Nat}
    {unit : UnitOfWork} (found : ((opened dispatchers).run moves).works work = some unit) :
    ∀ record ∈ unit.staged, Move.insert work record ∈ moves := by
  induction moves using List.reverseRecOn generalizing unit with
  | nil => cases found
  | append_singleton moves move inductionHypothesis =>
    intro record member
    rw [run_append] at found
    rcases work_perform ((opened dispatchers).run moves) move found with
      before | rfl | ⟨previous, latest, rfl, before, rfl⟩
    · exact List.mem_append_left _ (inductionHypothesis before record member)
    · cases member
    · rcases List.mem_append.mp member with earlier | last
      · exact List.mem_append_left _ (inductionHypothesis before record earlier)
      · rw [List.mem_singleton.mp last]
        exact List.mem_append_right _ List.mem_cons_self

/-- A record that a move brings into the store is either saved by the move, or was inserted into the
unit of work that the move commits. -/
theorem arriving_was_supplied (dispatchers : List Dispatcher) (moves : List Move) (move : Move)
    {record : EventRecord} (arrives : record ∈ ((opened dispatchers).run moves).arriving move) :
    move = .save record ∨ ∃ work, move = .commit work ∧ Move.insert work record ∈ moves := by
  cases move with
  | save other =>
    left
    rw [List.mem_singleton.mp arrives]
  | commit work =>
    right
    refine ⟨work, rfl, ?_⟩
    rw [arriving] at arrives
    cases found : ((opened dispatchers).run moves).works work with
    | none => simp [found] at arrives
    | some unit =>
      rw [found] at arrives
      exact staged_was_inserted dispatchers moves found record arrives
  | _ => cases arrives

end Cluster

end Outbox
