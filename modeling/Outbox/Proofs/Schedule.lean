import Outbox.Schedule

/-!
# The rhythm of a loop

A loop that is never told to stop goes through one round after the other: `Round` is what it knows
before a run, when the run is due and when the one before it has ended. Each round fixes the next
one, and a stop only decides how many of them the loop gets through. So what is said about the times
of runs is said about rounds, by one step from a round to the next, and holds however the loop ends.

A run becomes due later than the one before it by at least the period, and begins later by at least
the period less the tolerance. Runs that never take longer than the period begin on its multiples.

When the stop is heard at the moment at which a run may begin, either may come first, and which one
does is a choice that everything here is stated for. Only that no run begins after the stop needs
that there is nothing to choose.
-/

namespace Outbox.Schedule

/-- What a loop knows before a run. -/
structure Round where
  /-- When the run is due. -/
  due : Nat
  /-- When the run before it has ended. -/
  free : Nat

namespace Round

/-- When the run begins. -/
def start (round : Round) : Nat := max round.due round.free

/-- The run, when its work takes some time. -/
def tick (round : Round) (duration : Nat) : Tick := ⟨round.start, round.start + duration⟩

/-- The round behind the run. -/
def next (period : Nat) (round : Round) (duration : Nat) : Round :=
  ⟨nextDue period round.due round.start, round.start + duration⟩

/-- The round of a number when the loop is never told to stop. -/
def number (period : Nat) (work : Nat → Nat) : Nat → Round
  | 0 => ⟨0, 0⟩
  | count + 1 => (number period work count).next period (work count)

/-- The rounds before one all begin before a time. -/
def AllBefore (period : Nat) (work : Nat → Nat) (stop count : Nat) : Prop :=
  ∀ earlier < count, (number period work earlier).start < stop

variable {period : Nat} {work : Nat → Nat}

/-- Between the times at which two runs in a row are due lies at least the period. -/
theorem due_add_period_le (round : Round) (duration : Nat) :
    round.due + period ≤ (round.next period duration).due := by
  have reached : round.due ≤ round.start := Nat.le_max_left _ _
  simp only [next, nextDue]
  split <;> omega

/-- A run begins at least the period after the start of the one before it, less the tolerance: it is
due no earlier, because only a run within the tolerance keeps the rhythm. -/
theorem start_add_period_le_next (round : Round) (duration : Nat) :
    round.start + period ≤ (round.next period duration).start + tolerance := by
  have due : round.start + period ≤ (round.next period duration).due + tolerance := by
    simp only [next, nextDue]
    split <;> omega
  have reached : (round.next period duration).due ≤ (round.next period duration).start :=
    Nat.le_max_left _ _
  omega

/-- A loop is free again when every run so far has ended. -/
theorem finish_le_free_of_lt {former later : Nat} (order : former < later) :
    ((number period work former).tick (work former)).finish ≤ (number period work later).free := by
  induction later with
  | zero => omega
  | succ later inductionHypothesis =>
    rcases Nat.lt_or_eq_of_le (Nat.le_of_lt_succ order) with earlier | rfl
    · calc ((number period work former).tick (work former)).finish
        _ ≤ (number period work later).free := inductionHypothesis earlier
        _ ≤ (number period work later).start := Nat.le_max_right _ _
        _ ≤ (number period work (later + 1)).free := Nat.le_add_right _ _
    · exact Nat.le_refl _

/-- Every run has ended before any later one begins. -/
theorem finish_le_start_of_lt {former later : Nat} (order : former < later) :
    ((number period work former).tick (work former)).finish ≤
      ((number period work later).tick (work later)).start :=
  Nat.le_trans (finish_le_free_of_lt order) (Nat.le_max_right _ _)

/-- The run of a number is not due before that many milliseconds, since the period has at least
one. -/
theorem number_le_due (positive : 0 < period) (count : Nat) :
    count ≤ (number period work count).due := by
  induction count with
  | zero => exact Nat.zero_le _
  | succ count inductionHypothesis =>
    have later : (number period work count).due + period ≤ (number period work (count + 1)).due :=
      due_add_period_le _ _
    omega

/-- Runs that do not take longer than the period keep it: each one is due at a multiple of the
period, and the one before it has ended by then. -/
theorem on_grid (short : ∀ count, work count ≤ period) (count : Nat) :
    (number period work count).due = count * period ∧
      (number period work count).free ≤ count * period := by
  induction count with
  | zero => exact ⟨(Nat.zero_mul period).symm, Nat.zero_le _⟩
  | succ count inductionHypothesis =>
    obtain ⟨due, free⟩ := inductionHypothesis
    have begins : (number period work count).start = count * period := by
      rw [start, due, Nat.max_eq_left free]
    have brief : work count ≤ period := short count
    constructor
    · simp only [number, next, nextDue, begins, due]
      rw [if_pos (Nat.le_add_right _ _), Nat.succ_mul]
    · simp only [number, next, begins]
      rw [Nat.succ_mul]
      omega

end Round

open Round

variable {period stop : Nat} {work : Nat → Nat} {goesFirst : Nat → Bool}

/-! ## Rounds that a loop goes through -/

/-- A loop that has come to a round begins its run if the run can begin before the stop, or if it
can begin when the stop is heard and comes first. -/
def Begins (period : Nat) (work : Nat → Nat) (stop : Nat) (goesFirst : Nat → Bool)
    (count : Nat) : Prop :=
  (number period work count).start < stop ∨
    (number period work count).start ≤ max stop (number period work count).free ∧
      goesFirst count = true

/-- A run that does not begin before the stop begins just when the stop is heard, and comes first.
-/
theorem Begins.of_le {count : Nat} (begins : Begins period work stop goesFirst count)
    (late : stop ≤ (number period work count).start) :
    (number period work count).start = max stop (number period work count).free ∧
      goesFirst count = true := by
  obtain ⟨inTime, first⟩ := begins.resolve_left (Nat.not_lt_of_le late)
  have reached : (number period work count).free ≤ (number period work count).start :=
    Nat.le_max_right _ _
  exact ⟨Nat.le_antisymm inTime (Nat.max_le.mpr ⟨late, reached⟩), first⟩

/-- A loop goes through its rounds up to the limit, or up to the first whose run does not begin. The
limit is fuel; what ends a loop otherwise is the stop, and the rounds themselves know of neither. -/
theorem runsFrom_eq_rounds (period : Nat) (work : Nat → Nat) (stop : Nat) (goesFirst : Nat → Bool)
    (limit count : Nat) :
    ∃ last, count ≤ last ∧ last ≤ count + limit ∧
      (∀ each, count ≤ each → each < last → Begins period work stop goesFirst each) ∧
      (last < count + limit → ¬Begins period work stop goesFirst last) ∧
      runsFrom period work stop goesFirst limit count (number period work count).due
          (number period work count).free =
        ((List.range' count (last - count)).map fun each =>
            (number period work each).tick (work each),
          max stop (number period work last).free) := by
  induction limit generalizing count with
  | zero =>
    refine ⟨count, Nat.le_refl _, Nat.le_refl _, ?_, fun less => absurd less (Nat.lt_irrefl _), ?_⟩
    · intro each reached less
      exact absurd less (Nat.not_lt_of_le reached)
    · rw [runsFrom, Nat.sub_self]
      rfl
  | succ limit inductionHypothesis =>
    by_cases begins : Begins period work stop goesFirst count
    · obtain ⟨last, reached, inside, gone, ended, rest⟩ := inductionHypothesis (count + 1)
      refine ⟨last, Nat.le_of_succ_le reached, by omega, ?_, fun less => ended (by omega), ?_⟩
      · intro each from_count less
        rcases Nat.eq_or_lt_of_le from_count with rfl | later
        · exact begins
        · exact gone each later less
      · have oneMore : last - count = (last - (count + 1)) + 1 := by omega
        rw [runsFrom, oneMore, List.range'_succ, List.map_cons]
        refine (if_pos begins).trans ?_
        exact congrArg (fun rest : List Tick × Nat =>
          ((number period work count).tick (work count) :: rest.1, rest.2)) rest
    · refine ⟨count, Nat.le_refl _, Nat.le_add_right _ _, ?_, fun _ => begins, ?_⟩
      · intro each reached less
        exact absurd less (Nat.not_lt_of_le reached)
      · rw [runsFrom, Nat.sub_self]
        exact if_neg begins

/-- A stop coincides with a due run when the loop, once it is through with the runs that began
before the stop, could hear the stop and begin the run at the same moment. -/
def Coincides (period : Nat) (work : Nat → Nat) (stop : Nat) : Prop :=
  ∃ count, AllBefore period work stop count ∧
    (number period work count).start = max stop (number period work count).free

/-- When the stop coincides with no due run, the runs that a loop begins all begin before it.

Induct over the rounds. The first run that did not begin before the stop would coincide with it. -/
theorem allBefore_of_apart (apart : ¬Coincides period work stop) {last : Nat}
    (begins : ∀ each < last, Begins period work stop goesFirst each) :
    AllBefore period work stop last := by
  induction last with
  | zero => exact fun each less => absurd less (Nat.not_lt_zero each)
  | succ last inductionHypothesis =>
    have before : AllBefore period work stop last :=
      inductionHypothesis fun each less => begins each (Nat.lt_succ_of_lt less)
    intro each less
    rcases Nat.lt_or_eq_of_le (Nat.le_of_lt_succ less) with former | rfl
    · exact before each former
    · refine Nat.lt_of_not_le fun late => ?_
      exact apart ⟨each, before, ((begins each less).of_le late).1⟩

/-! ## The runs of the first rounds -/

/-- Runs in the rhythm of a loop. The first one is due at the start of the loop. A run that begins
at most the tolerance after it is due makes the next one due a period after that, and a later one
makes it due a period after its start. Each run begins as soon as it is due and the one before it
has ended, and takes as long as its work. -/
structure InRhythm (period : Nat) (work : Nat → Nat) (due : Nat → Nat) (ticks : List Tick) :
    Prop where
  firstDue : due 0 = 0
  nextDue : ∀ {count tick}, ticks[count]? = some tick → due (count + 1) =
    if tick.start ≤ due count + 5 then due count + period else tick.start + period
  firstStart : ∀ {tick}, ticks[0]? = some tick → tick.start = 0
  nextStart : ∀ {count former tick}, ticks[count]? = some former →
    ticks[count + 1]? = some tick → tick.start = max (due (count + 1)) former.finish
  finish : ∀ {count tick}, ticks[count]? = some tick → tick.finish = tick.start + work count

/-- The runs of the first rounds. -/
def firstTicks (period : Nat) (work : Nat → Nat) (count : Nat) : List Tick :=
  (List.range count).map fun each => (number period work each).tick (work each)

/-- The run of a number is the run of the round with that number. -/
theorem getElem?_firstTicks {count each : Nat} {tick : Tick}
    (found : (firstTicks period work count)[each]? = some tick) :
    each < count ∧ tick = (number period work each).tick (work each) := by
  rw [firstTicks, List.getElem?_map] at found
  obtain ⟨index, listed, rfl⟩ := Option.map_eq_some_iff.mp found
  obtain ⟨inside, rfl⟩ := List.getElem?_eq_some_iff.mp listed
  rw [List.length_range] at inside
  rw [List.getElem_range]
  exact ⟨inside, rfl⟩

/-- The runs of the first rounds are in rhythm, because each round is computed from the one before
it just as the rhythm says. -/
theorem inRhythm_firstTicks (count : Nat) :
    InRhythm period work (fun each => (number period work each).due)
      (firstTicks period work count) where
  firstDue := rfl
  nextDue found := by
    obtain ⟨_, rfl⟩ := getElem?_firstTicks found
    rfl
  firstStart found := by
    obtain ⟨_, rfl⟩ := getElem?_firstTicks found
    rfl
  nextStart found following := by
    obtain ⟨_, rfl⟩ := getElem?_firstTicks found
    obtain ⟨_, rfl⟩ := getElem?_firstTicks following
    rfl
  finish found := by
    obtain ⟨_, rfl⟩ := getElem?_firstTicks found
    rfl

/-- A run that one of the first rounds has is the run of such a round. -/
theorem mem_firstTicks {count : Nat} {tick : Tick} (member : tick ∈ firstTicks period work count) :
    ∃ each < count, tick = (number period work each).tick (work each) := by
  obtain ⟨each, listed, rfl⟩ := List.mem_map.mp member
  exact ⟨each, List.mem_range.mp listed, rfl⟩

/-- The runs of the first rounds do not overlap. -/
theorem pairwise_firstTicks (count : Nat) :
    (firstTicks period work count).Pairwise fun former later => former.finish ≤ later.start := by
  rw [firstTicks, List.pairwise_map]
  exact List.pairwise_lt_range.imp fun order => finish_le_start_of_lt order

/-- Each of the first rounds has one run. -/
theorem length_firstTicks (count : Nat) : (firstTicks period work count).length = count := by
  rw [firstTicks, List.length_map, List.length_range]

/-- The runs of a loop are those of the first rounds, up to the limit or up to the first round whose
run does not begin, and the loop ends when it is free from them, but not before the stop. -/
theorem firstTicks_of_ran {limit ended : Nat} {ticks : List Tick}
    (ran : runsFrom period work stop goesFirst limit 0 0 0 = (ticks, ended)) :
    ∃ last, last ≤ limit ∧ (∀ each < last, Begins period work stop goesFirst each) ∧
      (last < limit → ¬Begins period work stop goesFirst last) ∧
      ticks = firstTicks period work last ∧ ended = max stop (number period work last).free := by
  obtain ⟨last, _, inside, begun, refused, rounds⟩ :=
    runsFrom_eq_rounds period work stop goesFirst limit 0
  rw [Nat.sub_zero, ← List.range_eq_range'] at rounds
  obtain ⟨rfl, rfl⟩ := Prod.mk.inj (ran.symm.trans rounds)
  rw [Nat.zero_add] at inside refused
  exact ⟨last, inside, fun each less => begun each (Nat.zero_le each) less, refused, rfl, rfl⟩

/-- When a loop is free for the run of a number: at first at once, and then when the run before it
has ended. -/
def freeFor (ticks : List Tick) : Nat → Nat
  | 0 => 0
  | count + 1 => (ticks[count]?.map Tick.finish).getD 0

/-- A loop is free for a run when it is free in the round of that run. This also holds of the round
behind the last run. -/
theorem freeFor_firstTicks {count last : Nat} (reached : count ≤ last) :
    freeFor (firstTicks period work last) count = (number period work count).free := by
  cases count with
  | zero => rfl
  | succ count =>
    rw [freeFor, firstTicks, List.getElem?_map, List.getElem?_range reached]
    rfl

/-! ## The rhythm -/

/-- A loop keeps its rhythm until it ends, wherever the stop falls and whichever comes first where
it meets a due run.

The runs are in rhythm, and there is a first one unless the loop is told to stop at once. None
begins before another one has ended. Between the starts of two runs in a row lies at least the
period less five milliseconds, whatever their work, and runs that never take longer than the period
begin exactly on its multiples. The loop ends with the stop or with its last run, whichever is
later, and by then every run has ended. Unless the limit of runs has been reached, the run that
would have come next could not have begun before the stop, so none is left out.

When the stop coincides with no due run, the limit is not reached and no run begins after the stop.
-/
theorem rhythm_until_stop {limit ended : Nat} {ticks : List Tick} (positive : 0 < period)
    (enough : stop < limit)
    (ran : runsFrom period work stop goesFirst limit 0 0 0 = (ticks, ended)) :
    ∃ due : Nat → Nat,
      InRhythm period work due ticks ∧
      (0 < stop → ∃ first, ticks.head? = some first ∧ first.start = 0) ∧
      (ticks.Pairwise fun former later => former.finish ≤ later.start) ∧
      (∀ count former tick, ticks[count]? = some former → ticks[count + 1]? = some tick →
        former.start + period ≤ tick.start + 5) ∧
      ((∀ count, work count ≤ period) →
        ∀ count tick, ticks[count]? = some tick → tick.start = count * period) ∧
      ended = max stop (freeFor ticks ticks.length) ∧
      (∀ tick ∈ ticks, tick.finish ≤ ended) ∧
      (ticks.length < limit → stop ≤ max (due ticks.length) (freeFor ticks ticks.length)) ∧
      (¬Coincides period work stop →
        ticks.length < limit ∧ ∀ tick ∈ ticks, tick.start < stop) := by
  obtain ⟨last, inside, begins, refused, rfl, rfl⟩ := firstTicks_of_ran ran
  have free : freeFor (firstTicks period work last) last = (number period work last).free :=
    freeFor_firstTicks (Nat.le_refl last)
  rw [length_firstTicks, free]
  refine ⟨fun each => (number period work each).due, inRhythm_firstTicks last, ?_,
    pairwise_firstTicks last, ?_, ?_, rfl, ?_, ?_, ?_⟩
  · intro later
    cases last with
    | zero => exact absurd (.inl later) (refused (Nat.zero_lt_of_lt enough))
    | succ last => exact ⟨_, by rw [firstTicks, List.range_succ_eq_map]; rfl, rfl⟩
  · intro count former tick found following
    obtain ⟨_, rfl⟩ := getElem?_firstTicks found
    obtain ⟨_, rfl⟩ := getElem?_firstTicks following
    exact start_add_period_le_next _ _
  · intro short count tick found
    obtain ⟨_, rfl⟩ := getElem?_firstTicks found
    obtain ⟨due, free⟩ := on_grid short count
    calc ((number period work count).tick (work count)).start
      _ = max (number period work count).due (number period work count).free := rfl
      _ = (number period work count).due := Nat.max_eq_left (due ▸ free)
      _ = count * period := due
  · intro tick member
    obtain ⟨each, less, rfl⟩ := mem_firstTicks member
    exact Nat.le_trans (finish_le_free_of_lt less) (Nat.le_max_right _ _)
  · intro unfinished
    exact Nat.le_of_not_lt fun early => refused unfinished (.inl early)
  · intro apart
    have before : AllBefore period work stop last := allBefore_of_apart apart begins
    refine ⟨Nat.lt_of_not_le fun reached => ?_, ?_⟩
    · -- The run of the limit would be due after the stop, as each period has a millisecond.
      obtain ⟨former, rfl⟩ : ∃ former, last = former + 1 := ⟨last - 1, by omega⟩
      have early : (number period work former).start < stop :=
        before former (Nat.lt_succ_self former)
      have due : former ≤ (number period work former).due := number_le_due positive former
      have begun : (number period work former).due ≤ (number period work former).start :=
        Nat.le_max_left _ _
      omega
    · intro tick member
      obtain ⟨each, less, rfl⟩ := mem_firstTicks member
      exact before each less

/-- Work that takes long once and then little. -/
def longFirst : Nat → Nat
  | 0 => 27
  | _ + 1 => 3

/-- Work that always takes longer than a period of 10 milliseconds. -/
def overrunning (_ : Nat) : Nat := 25

/-- Two loops of 10 milliseconds. In the first one a run of 27 milliseconds is followed at once by
the next one, which starts a new rhythm, and a stop after 38 milliseconds waits for the third run.
The second one overruns every time. It is told to stop during its first run and hears of it only at
the end, when the next run is due and comes first; the two still do not overlap. -/
theorem long_run_starts_rhythm :
    (∃ due : Nat → Nat, InRhythm 10 longFirst due [⟨0, 27⟩, ⟨27, 30⟩, ⟨37, 40⟩] ∧
      ∀ tick ∈ [Tick.mk 0 27, ⟨27, 30⟩, ⟨37, 40⟩], tick.start < 38) ∧
    ∃ due : Nat → Nat, InRhythm 10 overrunning due [⟨0, 25⟩, ⟨25, 50⟩] ∧
      ([Tick.mk 0 25, ⟨25, 50⟩].Pairwise fun former later => former.finish ≤ later.start) ∧
      5 ≤ max (due 2) 50 := by
  have ran : runs 10 longFirst 38 = ([⟨0, 27⟩, ⟨27, 30⟩, ⟨37, 40⟩], 40) := by decide
  have apart : ¬Coincides 10 longFirst 38 := by
    rintro ⟨count, before, same⟩
    rcases count with _ | _ | _ | _ | count
    · revert same; decide
    · revert same; decide
    · revert same; decide
    · revert same; decide
    · exact absurd (before 3 (by omega)) (by decide)
  have overran : runsFrom 10 overrunning 5 (fun number => number = 1) 6 0 0 0 =
      ([⟨0, 25⟩, ⟨25, 50⟩], 50) := by decide
  constructor
  · obtain ⟨due, rhythm, _, _, _, _, _, _, _, stops⟩ :=
      rhythm_until_stop (by decide : 0 < 10) (by decide : 38 < 39) ran
    exact ⟨due, rhythm, (stops apart).2⟩
  · obtain ⟨due, rhythm, _, apart, _, _, _, _, complete, _⟩ :=
      rhythm_until_stop (by decide : 0 < 10) (by decide : 5 < 6) overran
    exact ⟨due, rhythm, apart, complete (by decide)⟩

end Outbox.Schedule
