import Outbox.Proofs.Decimal.Rounding
import Outbox.Retry

/-!
# Waiting times in exact numbers

A policy computes its waiting times with 53 significant bits and doubles at most 62 times. Below
`2 ^ 53` milliseconds neither is seen: a product that would be rounded, or would be doubled once
more, is beyond the longest waiting time already, and the shorter one of the two counts. So the
waiting times follow the formulas of their strategies in whole numbers.
-/

namespace Outbox

open Decimal

/-- The milliseconds that a strategy asks for after a failure, in exact numbers. -/
def Backoff.millis (base most attempt : Nat) : Backoff → Nat
  | .fixed => min base most
  | .exponential => min (base * Nat.pow 2 (attempt - 1)) most
  | .linear => min (base * attempt) most

namespace RetryPolicy

variable {policy : RetryPolicy} {base most : Nat}

/-- No strategy asks for more than the longest time. -/
theorem millis_le_most (base most attempt : Nat) (strategy : Backoff) :
    strategy.millis base most attempt ≤ most := by
  cases strategy with
  | fixed => exact Nat.min_le_right _ _
  | exponential => exact Nat.min_le_right _ _
  | linear => exact Nat.min_le_right _ _

/-- No strategy asks for less after a later failure. -/
theorem millis_mono (base most : Nat) (strategy : Backoff) {earlier later : Nat}
    (inOrder : earlier ≤ later) :
    strategy.millis base most earlier ≤ strategy.millis base most later := by
  cases strategy with
  | fixed => exact Nat.le_refl _
  | exponential =>
    have doublings : Nat.pow 2 (earlier - 1) ≤ Nat.pow 2 (later - 1) :=
      Nat.pow_le_pow_right (by decide) (Nat.sub_le_sub_right inOrder 1)
    have product := Nat.mul_le_mul_left base doublings
    simp only [Backoff.millis]
    omega
  | linear =>
    have product := Nat.mul_le_mul_left base inOrder
    simp only [Backoff.millis]
    omega

/-- A product that is rounded is beyond a bound below `2 ^ 53`, before and after. -/
theorem min_roundToBits (small : most < Nat.pow 2 53) (product : Nat) :
    min (roundToBits product) most = min product most := by
  by_cases exact : product < Nat.pow 2 53
  · rw [roundToBits_of_lt exact]
  · have reached : Nat.pow 2 53 ≤ product := Nat.le_of_not_lt exact
    have rounded : Nat.pow 2 53 ≤ roundToBits product := le_roundToBits (Nat.le_refl 53) reached
    omega

/-- What is doubled more than 62 times is nothing, or is beyond a bound below `2 ^ 53` already after
62 times. -/
theorem min_doublings (small : most < Nat.pow 2 53) (base doublings : Nat) :
    min (base * Nat.pow 2 (min doublings 62)) most = min (base * Nat.pow 2 doublings) most := by
  by_cases few : doublings ≤ 62
  · rw [Nat.min_eq_left few]
  · have many : 62 ≤ doublings := Nat.le_of_not_le few
    rw [Nat.min_eq_right many]
    cases base with
    | zero => rw [Nat.zero_mul, Nat.zero_mul]
    | succ less =>
      have clamped : most ≤ (less + 1) * Nat.pow 2 62 :=
        calc most
          _ ≤ Nat.pow 2 53 := Nat.le_of_lt small
          _ ≤ Nat.pow 2 62 := by decide
          _ ≤ (less + 1) * Nat.pow 2 62 := Nat.le_mul_of_pos_left _ (Nat.succ_pos less)
      have doubled : (less + 1) * Nat.pow 2 62 ≤ (less + 1) * Nat.pow 2 doublings :=
        Nat.mul_le_mul_left _ (Nat.pow_le_pow_right (by decide) many)
      rw [Nat.min_eq_right clamped, Nat.min_eq_right (Nat.le_trans clamped doubled)]

/-- The milliseconds to wait are those that the strategy asks for, computed with whole numbers.
Where the program computes in floating point, nothing is rounded below the longest time to wait, and
what is rounded beyond it is cut off anyway. -/
theorem delayMillis_eq (baseSmall : policy.baseDelay.millis < Nat.pow 2 53)
    (mostSmall : policy.maxDelay.millis < Nat.pow 2 53) {attempt : Nat} (first : 1 ≤ attempt) :
    policy.delayMillis attempt =
      policy.strategy.millis policy.baseDelay.millis policy.maxDelay.millis attempt := by
  have held : policy.strategy.millis policy.baseDelay.millis policy.maxDelay.millis attempt ≤
      longestDelay :=
    calc policy.strategy.millis policy.baseDelay.millis policy.maxDelay.millis attempt
      _ ≤ policy.maxDelay.millis := millis_le_most _ _ _ _
      _ ≤ Nat.pow 2 53 := Nat.le_of_lt mostSmall
      _ ≤ longestDelay := by decide
  rw [delayMillis, roundToBits_of_lt baseSmall, roundToBits_of_lt mostSmall,
    if_neg (Nat.ne_of_gt first)]
  rw [← Nat.min_eq_left held]
  congr 1
  cases policy.strategy with
  | fixed => rfl
  | exponential => exact min_doublings mostSmall _ _
  | linear => exact min_roundToBits mostSmall _

/-! ## Waiting times of a policy -/

/-- The waiting times of a policy whose times lie below `2 ^ 53` milliseconds.

After a failure, which count from one, the time is the whole number of milliseconds that the
strategy asks for, and before the first failure it is zero. So it never exceeds the longest time and
never gets shorter from failure to failure. A doubled time would not be rounded: it has no more
significant bits than the time that it is made of. -/
theorem delays_exact (policy : RetryPolicy) (baseSmall : policy.baseDelay.millis < Nat.pow 2 53)
    (mostSmall : policy.maxDelay.millis < Nat.pow 2 53) :
    (∀ attempt, 1 ≤ attempt → policy.delayForAttempt attempt = .ofMillis
      (policy.strategy.millis policy.baseDelay.millis policy.maxDelay.millis attempt)) ∧
    policy.delayForAttempt 0 = .zero ∧
    (∀ attempt, (policy.delayForAttempt attempt).nanos ≤ policy.maxDelay.nanos) ∧
    (∀ earlier later, earlier ≤ later →
      (policy.delayForAttempt earlier).nanos ≤ (policy.delayForAttempt later).nanos) ∧
    ∀ doublings, roundToBits (policy.baseDelay.millis * Nat.pow 2 doublings) =
      policy.baseDelay.millis * Nat.pow 2 doublings := by
  have none : policy.delayForAttempt 0 = .zero := by
    rw [delayForAttempt, delayMillis, if_pos rfl]
    rfl
  have asked : ∀ attempt, 1 ≤ attempt → policy.delayForAttempt attempt = .ofMillis
      (policy.strategy.millis policy.baseDelay.millis policy.maxDelay.millis attempt) := by
    intro attempt first
    rw [delayForAttempt, delayMillis_eq baseSmall mostSmall first]
  refine ⟨asked, none, ?_, ?_, ?_⟩
  · intro attempt
    rcases Nat.eq_zero_or_pos attempt with rfl | first
    · rw [none]
      exact Nat.zero_le _
    · rw [asked attempt first]
      calc policy.strategy.millis policy.baseDelay.millis policy.maxDelay.millis attempt * 1000000
        _ ≤ policy.maxDelay.millis * 1000000 :=
            Nat.mul_le_mul_right 1000000 (millis_le_most _ _ _ _)
        _ ≤ policy.maxDelay.nanos := Nat.div_mul_le_self _ _
  · intro earlier later inOrder
    rcases Nat.eq_zero_or_pos earlier with rfl | first
    · rw [none]
      exact Nat.zero_le _
    · rw [asked earlier first, asked later (Nat.le_trans first inOrder)]
      exact Nat.mul_le_mul_right 1000000 (millis_mono _ _ _ inOrder)
  · intro doublings
    exact roundToBits_mul_pow baseSmall doublings

/-- The usual waiting times double from a quarter of a minute until they reach an hour, and stay
there long after the last doubling. -/
theorem default_delays :
    default.delayForAttempt 3 = .ofSeconds 60 ∧ default.delayForAttempt 100 = .ofSeconds 3600 := by
  have asked := (delays_exact default (by decide) (by decide)).1
  exact ⟨asked 3 (by decide), asked 100 (by decide)⟩

end RetryPolicy

end Outbox
