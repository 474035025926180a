import Outbox.DomainError

/-!
# Lives of aggregates

The operations of an aggregate answer with the aggregate afterwards or refuse, and a refused
operation changes nothing. A life is the sequence of states that any operations lead through, those
refused among them. What every accepted operation keeps holds at the end of every life. So does
what it keeps of the operations that were accepted so far.
-/

namespace Outbox.Lifecycle

variable {Aggregate Operation Value : Type}

/-- The aggregate after an operation; a refused one leaves it as it was. -/
def after (perform : Operation → Aggregate → Except DomainError Aggregate) (aggregate : Aggregate)
    (operation : Operation) : Aggregate :=
  match perform operation aggregate with
  | .ok changed => changed
  | .error _ => aggregate

/-- The aggregate after some operations, one after the other. -/
def afterAll (perform : Operation → Aggregate → Except DomainError Aggregate)
    (aggregate : Aggregate) (operations : List Operation) : Aggregate :=
  operations.foldl (after perform) aggregate

/-- The operations that are accepted when some are performed, one after the other. -/
def accepted (perform : Operation → Aggregate → Except DomainError Aggregate) :
    Aggregate → List Operation → List Operation
  | _, [] => []
  | aggregate, operation :: later =>
    match perform operation aggregate with
    | .ok changed => operation :: accepted perform changed later
    | .error _ => accepted perform aggregate later

/-- What is read from the last operation that something can be read from. -/
def last (read? : Operation → Option Value) (history : List Operation) : Option Value :=
  (history.filterMap read?).getLast?

/-- An operation from which nothing is read leaves the last value as it was. -/
theorem last_of_none (read? : Operation → Option Value) {operation : Operation}
    (silent : read? operation = none) (history : List Operation) :
    last read? (history ++ [operation]) = last read? history := by
  rw [last, List.filterMap_append, List.filterMap_cons_none silent]
  exact congrArg List.getLast? (List.append_nil _)

/-- What is read from an operation is the last value from then on. -/
theorem last_of_some (read? : Operation → Option Value) {operation : Operation} {value : Value}
    (gives : read? operation = some value) (history : List Operation) :
    last read? (history ++ [operation]) = some value := by
  rw [last, List.filterMap_append, List.filterMap_cons_some gives]
  exact List.getLast?_concat

/-- What every accepted operation keeps of an aggregate and the operations accepted so far holds of
the aggregate and the accepted ones after any operations. -/
theorem history_afterAll {perform : Operation → Aggregate → Except DomainError Aggregate}
    {Invariant : List Operation → Aggregate → Prop}
    (kept : ∀ {operation history before changed}, perform operation before = .ok changed →
      Invariant history before → Invariant (history ++ [operation]) changed)
    {history : List Operation} {aggregate : Aggregate} (holds : Invariant history aggregate)
    (operations : List Operation) :
    Invariant (history ++ accepted perform aggregate operations)
      (afterAll perform aggregate operations) := by
  induction operations generalizing aggregate history with
  | nil =>
    rw [accepted, List.append_nil]
    exact holds
  | cons operation later inductionHypothesis =>
    rw [accepted, afterAll, List.foldl_cons, after]
    split
    · next changed performed =>
      have extended := inductionHypothesis (kept performed holds)
      rwa [List.append_assoc] at extended
    · exact inductionHypothesis holds

/-- An invariant that every accepted operation keeps holds after any operations. -/
theorem invariant_afterAll {perform : Operation → Aggregate → Except DomainError Aggregate}
    {Invariant : Aggregate → Prop}
    (kept : ∀ {operation before changed}, perform operation before = .ok changed →
      Invariant before → Invariant changed)
    {aggregate : Aggregate} (holds : Invariant aggregate) (operations : List Operation) :
    Invariant (afterAll perform aggregate operations) :=
  @history_afterAll _ _ perform (fun _ => Invariant) (fun performed before => kept performed before)
    [] aggregate holds operations

end Outbox.Lifecycle
