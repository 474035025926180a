import Outbox.Store.Call

/-!
# Injected faults

To see how the rest of the program takes failures, a store can be put behind a wrapper that counts
the calls of each operation and lets an operation fail from some call on. A failed call does not
reach the store.
-/

namespace Outbox

/-- A failure of an operation after some more calls that succeed. -/
structure FaultPlan where
  error : StoreError
  after : Nat

/-- The failures that are planned and the calls so far. -/
structure Faults where
  plan : StoreOperation → Option FaultPlan
  calls : StoreOperation → Nat

namespace Faults

/-- No failures and no calls. -/
def none : Faults := ⟨fun _ => .none, fun _ => 0⟩

/-- Plans a failure of an operation in the place of an earlier plan, or none any more. -/
def setPlan (faults : Faults) (operation : StoreOperation) (plan : Option FaultPlan) : Faults :=
  { faults with plan := fun other => if other = operation then plan else faults.plan other }

/-- Counts a call. -/
def count (faults : Faults) (operation : StoreOperation) : Faults :=
  { faults with
    calls := fun other => faults.calls other + if other = operation then 1 else 0 }

/-- A call of an operation: its failure, if it fails, and the plans afterwards. -/
def call (faults : Faults) (operation : StoreOperation) : Option StoreError × Faults :=
  let counted := faults.count operation
  match counted.plan operation with
  | .none => (.none, counted)
  | some ⟨error, 0⟩ => (some error, counted)
  | some ⟨error, after + 1⟩ => (.none, counted.setPlan operation (some ⟨error, after⟩))

end Faults

end Outbox
