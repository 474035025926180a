import Outbox.Proofs.Calendar.Reach
import Outbox.Proofs.Decimal.Rounding
import Outbox.Proofs.Retry
import Outbox.Retention

/-!
# Settings and the calendar

Two loops count from the current time with times from the settings. A retention run takes the window
off, and a failed delivery adds the time to wait. Settings are accepted whatever this leads to, and
where it leads out of the calendar the loop crashes. So it is said here which accepted settings are
harmless at every current time, and which are not.

A waiting time that is too long for a span counts as a day and does no harm. It doubles from failure
to failure, so unless it is too long from the first failure on, it does not get there without
passing through the waiting times that lead out of the calendar.
-/

namespace Outbox

open Calendar Decimal

/-! ## The current time -/

/-- A moment of the years 1970 to 9999. -/
def Current (now : Timestamp) : Prop :=
  dayNumber 1970 1 1 * secondsPerDay ≤ now.seconds ∧
    now.seconds < dayNumber 10000 1 1 * secondsPerDay

/-- The present lies within numbers of seconds that need no calendar. -/
theorem current_iff (now : Timestamp) :
    Current now ↔ 0 ≤ now.seconds ∧ now.seconds < 253402300800 := by
  have first : dayNumber 1970 1 1 * secondsPerDay = 0 := by decide
  have behind : dayNumber 10000 1 1 * secondsPerDay = 253402300800 := by decide
  rw [Current, first, behind]

/-- The last moment of the year 9999, leap seconds aside. -/
def lastOfCurrent : Timestamp := ⟨253402300799, 999999999, by decide⟩

/-- The days of the calendar before 1970. -/
def daysBehind : Nat := 96465292

example :
    dayNumber 1970 1 1 * secondsPerDay - daysBehind * secondsPerDay = firstSecond := by decide

/-- The seconds of the calendar after 9999. -/
def secondsAhead : Nat := 7956864576000

example :
    dayNumber 10000 1 1 * secondsPerDay + secondsAhead = lastSecond + 1 := by decide

namespace Retention

/-- One window ago there was a moment, whenever now is, exactly if the window is no longer than the
calendar reaches back from 1970. -/
theorem cutoff_iff {window : Nat} (positive : 0 < window) :
    (∀ now, Current now → ∃ cutoff, cutoff? window now = some cutoff) ↔
      window ≤ daysBehind * secondsPerDay := by
  constructor
  · intro always
    have begun := always default ((current_iff _).mpr (by decide))
    rw [cutoff?, Timestamp.add?_back_iff default positive] at begun
    have plain : (default : Timestamp).isLeap = false := by decide
    have start : (default : Timestamp).seconds = 0 := rfl
    simp only [plain, start, Bool.false_eq_true, if_false, firstSecond, daysBehind,
      secondsPerDay] at *
    omega
  · intro short now current
    rw [current_iff] at current
    rw [cutoff?, Timestamp.add?_back_iff now positive]
    simp only [firstSecond, daysBehind, secondsPerDay] at *
    split <;> omega

end Retention

namespace RetryPolicy

variable {policy : RetryPolicy}

/-- No waiting time of the policy is longer than the calendar reaches on from 9999. -/
def WithinCalendar (policy : RetryPolicy) : Prop :=
  ∀ attempt, 1 ≤ attempt → attempt ≤ mostAttempts →
    policy.waitingSpan attempt ≤ secondsAhead * nanosPerSecond

/-- A failure can be recorded, whenever now is and whatever is remembered, exactly if no waiting
time is longer than the calendar reaches on. -/
theorem recordFailure_iff :
    (∀ now, Current now → ∀ previous event error, ∃ delivery,
      policy.recordFailure? previous event error now = some delivery) ↔ policy.WithinCalendar := by
  constructor
  · intro always attempt first counted
    refine Int.not_lt.mp fun long => ?_
    let remembered : Delivery := { (Inhabited.default : Delivery) with attempts := attempt - 1 }
    obtain ⟨delivery, recorded⟩ := always lastOfCurrent ((current_iff _).mpr (by decide))
      (some remembered) remembered.event remembered.lastError
    obtain ⟨next, added, _⟩ := Option.map_eq_some_iff.mp recorded
    have counts : min (attempt - 1 + 1) mostAttempts = attempt := by omega
    change lastOfCurrent.add? (policy.waitingSpan (min (attempt - 1 + 1) mostAttempts)) = _ at added
    rw [counts, Timestamp.add?_beyond (by decide)] at added
    · cases added
    · simp only [lastOfCurrent, lastSecond, nanosPerSecond, secondsAhead] at *
      omega
  · intro within now current previous event error
    rw [current_iff] at current
    have counted : policy.waitingSpan
        (min ((previous.map Delivery.attempts).getD 0 + 1) mostAttempts) ≤
          secondsAhead * nanosPerSecond :=
      within _ (Nat.le_min.mpr ⟨Nat.succ_pos _, by decide⟩) (Nat.min_le_right _ _)
    have reach : (secondsAhead * nanosPerSecond : Int) ≤
        (lastSecond - now.seconds) * nanosPerSecond := by
      simp only [lastSecond, nanosPerSecond, secondsAhead]
      omega
    obtain ⟨next, added⟩ :=
      Timestamp.add?_of_reach (waitingSpan_nonneg policy _) (Int.le_trans counted reach)
    exact ⟨_, Option.map_eq_some_iff.mpr ⟨next, added, rfl⟩⟩

/-! ## Waiting times that double -/

/-- A second has a thousand milliseconds. -/
theorem millis_ofSeconds (seconds : Nat) :
    (Duration.ofSeconds seconds).millis = seconds * 1000 := by
  simp only [Duration.ofSeconds, Duration.millis]
  omega

/-- A waiting time stays within the calendar if its milliseconds do, or if there are too many of
them for a span, so that it counts as a day. -/
theorem waitingSpan_le_iff (attempt : Nat) :
    policy.waitingSpan attempt ≤ secondsAhead * nanosPerSecond ↔
      policy.delayMillis attempt ≤ secondsAhead * 1000 ∨
        longestSpan < policy.delayMillis attempt := by
  simp only [waitingSpan, Duration.ofMillis, Duration.ofSeconds, secondsAhead, nanosPerSecond,
    secondsPerDay]
  split <;> omega

/-- Rounding does not lead a number of seconds into the calendar or out of it. -/
theorem roundToBits_le_ahead (seconds : Nat) :
    roundToBits (seconds * 1000) ≤ secondsAhead * 1000 ↔ seconds ≤ secondsAhead := by
  by_cases small : seconds * 1000 < Nat.pow 2 53
  · rw [roundToBits_of_lt small]
    omega
  · have reached : 9007199254740992 ≤ seconds * 1000 := Nat.le_of_not_lt small
    have large : 9007199254740992 ≤ roundToBits (seconds * 1000) :=
      le_roundToBits (Nat.le_refl 53) reached
    simp only [secondsAhead]
    omega

/-- Rounding does not make a number of seconds too long for a span, nor short enough for one. -/
theorem longestSpan_lt_roundToBits (seconds : Nat) :
    longestSpan < roundToBits (seconds * 1000) ↔ longestSpan / 1000 < seconds := by
  have span : longestSpan = 9223372036854775807 := rfl
  rcases Nat.lt_trichotomy seconds 9223372036854775 with less | rfl | greater
  · have below : seconds * 1000 < 9223372036854775808 := by omega
    have rounded : roundToBits (seconds * 1000) ≤ seconds * 1000 + 1024 :=
      roundToBits_le 10 below
    omega
  · decide +kernel
  · have reached : 9223372036854775808 ≤ seconds * 1000 := by omega
    have rounded : 9223372036854775808 ≤ roundToBits (seconds * 1000) :=
      le_roundToBits (by decide : 53 ≤ 63) reached
    omega

/-- The milliseconds to wait after a failure, when the waiting time doubles. -/
theorem delayMillis_exponential {base most attempt : Nat} (doubles : policy.strategy = .exponential)
    (baseSeconds : policy.baseDelay = .ofSeconds base)
    (mostSeconds : policy.maxDelay = .ofSeconds most) (first : 1 ≤ attempt) :
    policy.delayMillis attempt =
      min (min (roundToBits (base * 1000) * Nat.pow 2 (min (attempt - 1) 62))
        (roundToBits (most * 1000))) longestDelay := by
  rw [delayMillis, doubles, baseSeconds, mostSeconds, millis_ofSeconds, millis_ofSeconds]
  exact if_neg (by omega)

/-- Doubling leads past a bound without leading past its double, if it starts up to the bound. -/
theorem doubled_past {base bound : Nat} (positive : 0 < base) (below : base ≤ bound) :
    bound < base * Nat.pow 2 (Nat.log2 (bound / base) + 1) ∧
      base * Nat.pow 2 (Nat.log2 (bound / base) + 1) ≤ 2 * bound := by
  have fits : bound / base ≠ 0 := Nat.ne_of_gt (Nat.div_pos below positive)
  constructor
  · calc bound
      _ < base * (bound / base + 1) := Nat.lt_mul_div_succ bound positive
      _ ≤ base * 2 ^ (Nat.log2 (bound / base) + 1) := Nat.mul_le_mul_left _ Nat.lt_log2_self
  · calc base * 2 ^ (Nat.log2 (bound / base) + 1)
      _ = 2 * (base * 2 ^ Nat.log2 (bound / base)) := by rw [Nat.pow_succ']; ac_rfl
      _ ≤ 2 * (base * (bound / base)) :=
          Nat.mul_le_mul_left _ (Nat.mul_le_mul_left _ (Nat.log2_self_le fits))
      _ ≤ 2 * bound := Nat.mul_le_mul_left _ (Nat.mul_div_le bound base)

/-- Some waiting time leads out of the calendar and is not too long for a span: the first one, or
the one at which doubling has just led past the reach of the calendar. -/
theorem exists_beyond {base most : Nat} (doubles : policy.strategy = .exponential)
    (baseSeconds : policy.baseDelay = .ofSeconds base)
    (mostSeconds : policy.maxDelay = .ofSeconds most) (waits : 0 < base)
    (long : secondsAhead < most)
    (held : base ≤ longestSpan / 1000 ∨ most ≤ longestSpan / 1000) :
    ∃ attempt, 1 ≤ attempt ∧ attempt ≤ mostAttempts ∧
      secondsAhead * 1000 < policy.delayMillis attempt ∧
      policy.delayMillis attempt ≤ longestSpan := by
  have mostBeyond : secondsAhead * 1000 < roundToBits (most * 1000) :=
    Nat.lt_of_not_le (mt (roundToBits_le_ahead most).mp (Nat.not_le_of_lt long))
  have ceiling : secondsAhead * 1000 < longestDelay := by decide
  by_cases below : base ≤ secondsAhead
  · have reach : base * 1000 ≤ secondsAhead * 1000 := Nat.mul_le_mul_right 1000 below
    have exact : roundToBits (base * 1000) = base * 1000 :=
      roundToBits_of_lt (Nat.lt_of_le_of_lt reach (by decide))
    obtain ⟨past, within⟩ := doubled_past (Nat.mul_pos waits (by decide : 0 < 1000)) reach
    have few : Nat.log2 (secondsAhead * 1000 / (base * 1000)) < 43 := by
      have quotient : secondsAhead * 1000 / (base * 1000) ≤ secondsAhead := by
        rw [Nat.mul_div_mul_right _ _ (by decide)]
        exact Nat.div_le_self _ _
      have fits : secondsAhead * 1000 / (base * 1000) ≠ 0 :=
        Nat.ne_of_gt (Nat.div_pos reach (Nat.mul_pos waits (by decide)))
      exact (Nat.log2_lt fits).mpr (Nat.lt_of_le_of_lt quotient (by decide))
    refine ⟨Nat.log2 (secondsAhead * 1000 / (base * 1000)) + 1 + 1, by omega, ?_, ?_⟩
    · have : 62 ≤ mostAttempts := by decide
      omega
    · rw [delayMillis_exponential doubles baseSeconds mostSeconds (by omega), exact,
        Nat.add_sub_cancel, Nat.min_eq_left (by omega : _ ≤ 62)]
      refine ⟨Nat.lt_min.mpr ⟨Nat.lt_min.mpr ⟨past, mostBeyond⟩, ceiling⟩, ?_⟩
      calc min (min (base * 1000 * 2 ^ _) (roundToBits (most * 1000))) longestDelay
        _ ≤ base * 1000 * 2 ^ _ := Nat.le_trans (Nat.min_le_left _ _) (Nat.min_le_left _ _)
        _ ≤ 2 * (secondsAhead * 1000) := within
        _ ≤ longestSpan := by decide
  · have baseBeyond : secondsAhead * 1000 < roundToBits (base * 1000) :=
      Nat.lt_of_not_le (mt (roundToBits_le_ahead base).mp below)
    refine ⟨1, Nat.le_refl 1, by decide, ?_⟩
    rw [delayMillis_exponential doubles baseSeconds mostSeconds (Nat.le_refl 1), Nat.sub_self,
      Nat.zero_min, (rfl : Nat.pow 2 0 = 1), Nat.mul_one]
    refine ⟨Nat.lt_min.mpr ⟨Nat.lt_min.mpr ⟨baseBeyond, mostBeyond⟩, ceiling⟩, ?_⟩
    refine Nat.le_trans (Nat.min_le_left _ _) ?_
    rcases held with baseHeld | mostHeld
    · exact Nat.le_trans (Nat.min_le_left _ _)
        (Nat.le_of_not_lt (mt (longestSpan_lt_roundToBits base).mp (Nat.not_lt_of_le baseHeld)))
    · exact Nat.le_trans (Nat.min_le_right _ _)
        (Nat.le_of_not_lt (mt (longestSpan_lt_roundToBits most).mp (Nat.not_lt_of_le mostHeld)))

/-- When the waiting time doubles, none leads out of the calendar exactly if there is none, or the
longest one stays within, or already the first one is too long for a span and the longest one too.
-/
theorem withinCalendar_iff {base most : Nat} (doubles : policy.strategy = .exponential)
    (baseSeconds : policy.baseDelay = .ofSeconds base)
    (mostSeconds : policy.maxDelay = .ofSeconds most) :
    policy.WithinCalendar ↔
      base = 0 ∨ most ≤ secondsAhead ∨ longestSpan / 1000 < base ∧ longestSpan / 1000 < most := by
  constructor
  · intro within
    refine Decidable.byContradiction fun harmful => ?_
    obtain ⟨attempt, first, counted, beyond, held⟩ := exists_beyond doubles baseSeconds mostSeconds
      (by omega) (by omega) (by omega)
    rcases (waitingSpan_le_iff attempt).mp (within attempt first counted) with short | long
    · exact Nat.not_le_of_lt beyond short
    · exact Nat.not_le_of_lt long held
  · intro harmless attempt first counted
    rw [waitingSpan_le_iff, delayMillis_exponential doubles baseSeconds mostSeconds first]
    rcases harmless with rfl | short | ⟨baseLong, mostLong⟩
    · left
      rw [Nat.zero_mul, roundToBits_of_lt (by decide), Nat.zero_mul, Nat.zero_min, Nat.zero_min]
      exact Nat.zero_le _
    · left
      rw [← roundToBits_le_ahead] at short
      exact Nat.le_trans (Nat.le_trans (Nat.min_le_left _ _) (Nat.min_le_right _ _)) short
    · right
      rw [← longestSpan_lt_roundToBits] at baseLong mostLong
      have grown : roundToBits (base * 1000) ≤
          roundToBits (base * 1000) * 2 ^ min (attempt - 1) 62 :=
        Nat.le_mul_of_pos_right _ (Nat.two_pow_pos _)
      exact Nat.lt_min.mpr
        ⟨Nat.lt_min.mpr ⟨Nat.lt_of_lt_of_le baseLong grown, mostLong⟩, by decide⟩

end RetryPolicy

namespace Config

/-- A time in whole seconds is one also when it is set. -/
theorem seconds_ok {lookup : Lookup} {key : String} {usual : Nat} {duration : Duration}
    (read : seconds lookup key (.ofSeconds usual) = .ok duration) :
    ∃ number, duration = .ofSeconds number := by
  obtain ⟨found, _, read⟩ := ok_of_bind read
  obtain rfl := Except.ok.inj read
  cases found with
  | none => exact ⟨usual, rfl⟩
  | some number => exact ⟨number, rfl⟩

/-- A window is some time: zero and less is refused, and the usual window is a month. -/
theorem retentionWindowOf_pos {lookup : Lookup} {window : Nat}
    (read : retentionWindowOf lookup = .ok window) : 0 < window := by
  obtain ⟨found, _, read⟩ := ok_of_bind read
  cases found with
  | none =>
    obtain rfl := Except.ok.inj read
    decide
  | some days =>
    dsimp only at read
    split at read
    · cases read
    · split at read
      · cases read
      · obtain rfl := Except.ok.inj read
        simp only [secondsPerDay]
        omega

/-- A time of whole seconds has as many seconds as it was given. -/
theorem seconds_ofSeconds (number : Nat) : (Duration.ofSeconds number).seconds = number :=
  Nat.mul_div_cancel number (by decide)

/-- Which accepted settings are harmless at every time of the years 1970 to 9999.

A retention run always finds the moment one window ago exactly if the window is at most 96465292
days. A failure can always be recorded, whatever is remembered of the earlier ones, exactly if the
first waiting time is zero, or the longest one is at most 7956864576000 seconds, or both are too
long for a span, so that every waiting time counts as a day. The next attempt of a failure that can
be recorded is never before the failure. -/
theorem harmless_iff {lookup : Lookup} {config : Config} (read : ofLookup lookup = .ok config) :
    ((∀ now, Current now →
        ∃ cutoff, Retention.cutoff? config.retentionWindow now = some cutoff) ↔
      config.retentionWindow ≤ 96465292 * 86400) ∧
    ((∀ now, Current now → ∀ previous event error, ∃ delivery,
        config.retry.recordFailure? previous event error now = some delivery) ↔
      config.retry.baseDelay.seconds = 0 ∨ config.retry.maxDelay.seconds ≤ 7956864576000 ∨
        9223372036854775 < config.retry.baseDelay.seconds ∧
          9223372036854775 < config.retry.maxDelay.seconds) ∧
    ∀ now previous event error delivery,
      config.retry.recordFailure? previous event error now = some delivery →
        now.upTo delivery.nextAttemptAt = true := by
  obtain ⟨baseRead, mostRead, _, windowRead, doubles⟩ := ofLookup_ok read
  obtain ⟨base, baseSeconds⟩ := seconds_ok baseRead
  obtain ⟨most, mostSeconds⟩ := seconds_ok mostRead
  refine ⟨Retention.cutoff_iff (retentionWindowOf_pos windowRead), ?_, ?_⟩
  · rw [baseSeconds, mostSeconds, seconds_ofSeconds, seconds_ofSeconds,
      RetryPolicy.recordFailure_iff]
    exact RetryPolicy.withinCalendar_iff doubles baseSeconds mostSeconds
  · intro now previous event error delivery recorded
    exact RetryPolicy.upTo_of_recordFailure? recorded

/-- A relay to which nothing is given never leaves the calendar. -/
theorem default_harmless :
    ofLookup (fun _ => none) = .ok default ∧
      ∀ now, Current now →
        (∃ cutoff, Retention.cutoff? default.retentionWindow now = some cutoff) ∧
        ∀ previous event error, ∃ delivery,
          default.retry.recordFailure? previous event error now = some delivery := by
  have read : ofLookup (fun _ => none) = .ok default := rfl
  obtain ⟨window, retry, _⟩ := harmless_iff read
  refine ⟨read, fun now current => ⟨?_, ?_⟩⟩
  · exact window.mpr (by decide) now current
  · exact retry.mpr (by decide) now current

/-- Settings with a window of a hundred million days and waiting times of ten million million
seconds. -/
def farSettings (key : String) : Option String :=
  if key = "SUPPLYREG_RETENTION_DAYS" then some "100000000"
  else if key = "SUPPLYREG_RETRY_BASE_SECS" ∨ key = "SUPPLYREG_RETRY_MAX_SECS" then
    some "10000000000000"
  else none

/-- The waiting times of these settings. -/
def farRetry : RetryPolicy :=
  .exponential (some 20) (.ofSeconds 10000000000000) (.ofSeconds 10000000000000)

/-- The first of March 2024 at noon. -/
def noon : Timestamp := ⟨1709294400, 0, by decide⟩

/-- These settings are accepted, and both loops crash with them: there was no moment one window ago,
and there is none for the next attempt after a first failure. -/
theorem accepted_settings_crash :
    ofLookup farSettings =
        .ok { default with retentionWindow := 100000000 * 86400, retry := farRetry } ∧
      Current noon ∧
      Retention.cutoff? (100000000 * 86400) noon = none ∧
      ∀ event error, farRetry.recordFailure? none event error noon = none := by
  refine ⟨rfl, (current_iff noon).mpr (by decide), by decide +kernel, ?_⟩
  intro event error
  have beyond : noon.add? (farRetry.waitingSpan 1) = none := by decide +kernel
  rw [RetryPolicy.recordFailure?, Option.map_eq_none_iff]
  exact beyond

end Config

end Outbox
