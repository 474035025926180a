/-!
# Regular work

A loop runs a job once per period until it is told to stop. Time is counted in milliseconds from
the start of the loop. A run begins when it is due and the one before it has ended, so runs never
overlap. A run that begins at most five milliseconds late keeps the rhythm, and a later one starts
a new one. The run in progress is always finished.

When a run is due and the stop has been asked for at the same time, either may come first; a choice
for each run says which.
-/

namespace Outbox.Schedule

/-- How late a run may begin without a new rhythm. -/
def tolerance : Nat := 5

/-- When a run began and when it ended. -/
structure Tick where
  start : Nat
  finish : Nat
  deriving DecidableEq, Repr

/-- When the run after one is due. -/
def nextDue (period due start : Nat) : Nat :=
  if start ≤ due + tolerance then due + period else start + period

/-- The runs from one on, and when the loop has ended. The run is the one of a number and is due at
    a time; the one before it has ended at another. The work says how long each run takes. At most
    as many runs as the limit says are followed. -/
def runsFrom (period : Nat) (work : Nat → Nat) (stop : Nat) (goesFirst : Nat → Bool) :
    Nat → Nat → Nat → Nat → List Tick × Nat
  | 0, _, _, free => ([], max stop free)
  | limit + 1, number, due, free =>
    let start := max due free
    if start < stop ∨ start ≤ max stop free ∧ goesFirst number then
      let finish := start + work number
      let (ticks, ended) :=
        runsFrom period work stop goesFirst limit (number + 1) (nextDue period due start) finish
      (⟨start, finish⟩ :: ticks, ended)
    else ([], max stop free)

/-- The runs of a loop that is told to stop at a time, when the stop always comes first, and when
    the loop has ended. Every period is at least a millisecond, so there are no more runs than
    milliseconds before the stop. -/
def runs (period : Nat) (work : Nat → Nat) (stop : Nat) : List Tick × Nat :=
  runsFrom period work stop (fun _ => false) (stop + 1) 0 0 0

end Outbox.Schedule
