import Outbox.Proofs.Schedule

/-!
# The stop of a loop

A loop listens for the stop between its runs only, so the run in progress is always finished. If
that run has taken so long that the next one is due by its end, the loop finds the stop and a due
run at once, and either may come first. Nothing prefers the stop here: a run that comes first begins
after the stop, and if it takes as long as the one before it, so may the next one.

So a run may begin after the stop only at the very moment at which the one before it ends. If the
stop comes first whenever there is a choice, every run begins before it, and likewise if there is no
choice, because no run takes as long as the period and the stop does not meet one of its multiples.
-/

namespace Outbox.Schedule

open Round

variable {period stop : Nat} {work : Nat → Nat} {goesFirst : Nat → Bool}

/-- Runs that do not take longer than the period begin on its multiples. -/
theorem start_of_short (short : ∀ count, work count ≤ period) (count : Nat) :
    (number period work count).start = count * period := by
  obtain ⟨due, free⟩ := on_grid short count
  rw [start, due, Nat.max_eq_left free]

/-- Runs that do not even take as long as the period leave the loop waiting for the next one, so
only a stop that meets a multiple of the period can be heard at the moment at which a run begins. -/
theorem dvd_stop_of_start_eq (short : ∀ count, work count < period) {count : Nat}
    (heard : (number period work count).start = max stop (number period work count).free) :
    period ∣ stop := by
  have onGrid : ∀ each, (number period work each).start = each * period :=
    start_of_short fun each => Nat.le_of_lt (short each)
  rw [onGrid] at heard
  refine ⟨count, ?_⟩
  rw [Nat.mul_comm, heard]
  cases count with
  | zero => exact (Nat.max_eq_left (Nat.zero_le stop)).symm
  | succ former =>
    have waits : (number period work (former + 1)).free < (former + 1) * period := by
      calc (number period work (former + 1)).free
        _ = (number period work former).start + work former := rfl
        _ = former * period + work former := by rw [onGrid]
        _ < former * period + period := Nat.add_lt_add_left (short former) _
        _ = (former + 1) * period := (Nat.succ_mul former period).symm
    omega

/-- How a loop ends, whichever comes first where there is a choice.

Its runs are in rhythm. A run that does not begin before the stop begins at the very moment at which
the stop is heard, which is when the run before it has ended, and comes first. The loop ends when
the stop has been asked for and every run has ended. Unless the limit of runs has been reached, the
next run could not have begun before the stop, and was not yet due when the stop was heard or came
second.

So every run begins before the stop if the stop always comes first, and also if no run takes as long
as the period and the stop meets none of its multiples. -/
theorem runs_until_heard {limit ended : Nat} {ticks : List Tick}
    (ran : runsFrom period work stop goesFirst limit 0 0 0 = (ticks, ended)) :
    ∃ due : Nat → Nat,
      InRhythm period work due ticks ∧
      (∀ count tick, ticks[count]? = some tick → stop ≤ tick.start →
        tick.start = max stop (freeFor ticks count) ∧ goesFirst count = true) ∧
      ended = max stop (freeFor ticks ticks.length) ∧
      (∀ tick ∈ ticks, tick.finish ≤ ended) ∧
      (ticks.length < limit →
        stop ≤ max (due ticks.length) (freeFor ticks ticks.length) ∧
        (ended < due ticks.length ∨ goesFirst ticks.length = false)) ∧
      ((∀ count, goesFirst count = false) → ∀ tick ∈ ticks, tick.start < stop) ∧
      ((∀ count, work count < period) → ¬period ∣ stop → ∀ tick ∈ ticks, tick.start < stop) := by
  obtain ⟨last, inside, begins, refused, rfl, rfl⟩ := firstTicks_of_ran ran
  have free : freeFor (firstTicks period work last) last = (number period work last).free :=
    freeFor_firstTicks (Nat.le_refl last)
  rw [length_firstTicks, free]
  refine ⟨fun each => (number period work each).due, inRhythm_firstTicks last, ?_, rfl, ?_, ?_, ?_,
    ?_⟩
  · intro count tick found late
    obtain ⟨less, rfl⟩ := getElem?_firstTicks found
    rw [freeFor_firstTicks (Nat.le_of_lt less)]
    exact (begins count less).of_le late
  · intro tick member
    obtain ⟨each, less, rfl⟩ := mem_firstTicks member
    exact Nat.le_trans (finish_le_free_of_lt less) (Nat.le_max_right _ _)
  · intro unfinished
    have waits : ¬Begins period work stop goesFirst last := refused unfinished
    refine ⟨Nat.le_of_not_lt fun early => waits (.inl early), ?_⟩
    cases choice : goesFirst last with
    | false => exact .inr rfl
    | true =>
      -- The run would have come first, so it was not due yet.
      refine .inl (Nat.lt_of_not_le fun due => waits (.inr ⟨?_, choice⟩))
      exact Nat.max_le.mpr ⟨due, Nat.le_max_right _ _⟩
  · intro stopFirst tick member
    obtain ⟨each, less, rfl⟩ := mem_firstTicks member
    refine Nat.lt_of_not_le fun late => ?_
    obtain ⟨_, first⟩ := (begins each less).of_le late
    rw [stopFirst each] at first
    cases first
  · intro short apart tick member
    obtain ⟨each, less, rfl⟩ := mem_firstTicks member
    refine Nat.lt_of_not_le fun late => ?_
    obtain ⟨heard, _⟩ := (begins each less).of_le late
    exact apart (dvd_stop_of_start_eq short heard)

/-- When every run takes at least a period, the next one is due by its end. -/
theorem due_le_free_of_overrun (overrun : ∀ count, period ≤ work count) (count : Nat) :
    (number period work count).due ≤ (number period work count).free := by
  cases count with
  | zero => exact Nat.le_refl 0
  | succ former =>
    have reached : (number period work former).due ≤ (number period work former).start :=
      Nat.le_max_left _ _
    have long : period ≤ work former := overrun former
    simp only [number, next, nextDue]
    split <;> omega

/-- A loop whose runs all take at least a period never hears the stop if the due run always comes
first: however many runs are followed, there is one more. -/
theorem length_runs_of_overrun (overrun : ∀ count, period ≤ work count) (limit : Nat) :
    (runsFrom period work stop (fun _ => true) limit 0 0 0).1.length = limit := by
  have ran : runsFrom period work stop (fun _ => true) limit 0 0 0 = (_, _) := rfl
  obtain ⟨last, inside, _, refused, runs, _⟩ := firstTicks_of_ran ran
  have begins : Begins period work stop (fun _ => true) last := by
    refine .inr ⟨?_, rfl⟩
    calc (number period work last).start
      _ = (number period work last).free := Nat.max_eq_right (due_le_free_of_overrun overrun last)
      _ ≤ max stop (number period work last).free := Nat.le_max_right _ _
  rw [runs, length_firstTicks]
  exact Nat.le_antisymm inside (Nat.le_of_not_lt fun less => refused less begins)

/-- A loop of 10 milliseconds that is told to stop during its third run, and goes on with none,
because the stop comes first. -/
theorem overrunning_loop_stops :
    runsFrom 10 overrunning 60 (fun _ => false) 61 0 0 0 = ([⟨0, 25⟩, ⟨25, 50⟩, ⟨50, 75⟩], 75) ∧
      ∀ tick ∈ [Tick.mk 0 25, ⟨25, 50⟩, ⟨50, 75⟩], tick.start < 60 := by
  have ran : runsFrom 10 overrunning 60 (fun _ => false) 61 0 0 0 =
      ([⟨0, 25⟩, ⟨25, 50⟩, ⟨50, 75⟩], 75) := by decide
  obtain ⟨due, _, _, _, _, _, stopFirst, _⟩ := runs_until_heard ran
  exact ⟨ran, stopFirst fun _ => rfl⟩

/-- A loop of 10 milliseconds is told to stop during its first run. The next run is due by the end
of that one and comes first, so it begins 13 milliseconds after the stop. -/
theorem overdue_run_after_stop :
    runsFrom 10 overrunning 12 (fun number => number = 1) 13 0 0 0 = ([⟨0, 25⟩, ⟨25, 50⟩], 50) ∧
      ¬∀ tick ∈ (runsFrom 10 overrunning 12 (fun number => number = 1) 13 0 0 0).1,
        tick.start ≤ 12 := by
  decide

end Outbox.Schedule
