/-!
# Outcomes in sequence

A reader that may fail goes on with what it has read so far. So it succeeds when every step does,
and when it has succeeded, every step has.
-/

namespace Outbox

variable {Error First Second : Type} {first : Except Error First}
  {next : First → Except Error Second}

/-- What has succeeded is handed on. -/
theorem ok_bind (middle : First) : Except.ok middle >>= next = next middle :=
  rfl

/-- What succeeds after something has succeeded before. -/
theorem ok_of_bind {value : Second} (bound : first >>= next = .ok value) :
    ∃ middle, first = .ok middle ∧ next middle = .ok value := by
  cases first with
  | error error => cases bound
  | ok middle => exact ⟨middle, rfl, bound⟩

/-- What succeeds with a value has only this value. -/
theorem ok_of_toOption {outcome : Except Error First} {value : First}
    (succeeded : outcome.toOption = some value) : outcome = .ok value := by
  cases outcome with
  | error error => cases succeeded
  | ok held => rw [Option.some.inj succeeded]

end Outbox
