import Outbox.Decimal.Binary64

/-!
# Rounding to 53 bits

A number below `2 ^ 53` stays as it is, and so does its product with a power of two. A larger one
keeps its leading bit, so it never falls below a power of two that it has reached, and it grows by
at most one unit of its last bit.
-/

namespace Outbox.Decimal

/-- Rounding to a whole number leads to the quotient or to the number behind it. -/
theorem roundHalfEven_cases (numerator denominator : Nat) :
    roundHalfEven numerator denominator = numerator / denominator ∨
      roundHalfEven numerator denominator = numerator / denominator + 1 := by
  simp only [roundHalfEven]
  split
  · exact .inl rfl
  · split
    · exact .inr rfl
    · split
      · exact .inl rfl
      · exact .inr rfl

/-- A number of at most 53 bits is not rounded. -/
theorem roundToBits_of_lt {number : Nat} (small : number < Nat.pow 2 53) :
    roundToBits number = number :=
  if_pos small

/-- A whole quotient is not rounded. -/
theorem roundHalfEven_mul {denominator : Nat} (positive : 0 < denominator) (quotient : Nat) :
    roundHalfEven (denominator * quotient) denominator = quotient := by
  simp only [roundHalfEven, Nat.mul_mod_right, Nat.mul_zero, Nat.mul_div_cancel_left _ positive]
  exact if_pos positive

/-- Doubling is exact: the product of a number below `2 ^ 53` with a power of two stays as it is,
because the unit of its last bit divides the power. -/
theorem roundToBits_mul_pow {number : Nat} (small : number < Nat.pow 2 53) (power : Nat) :
    roundToBits (number * Nat.pow 2 power) = number * Nat.pow 2 power := by
  by_cases below : number * Nat.pow 2 power < Nat.pow 2 53
  · exact roundToBits_of_lt below
  · have large : Nat.pow 2 53 ≤ number * Nat.pow 2 power := Nat.le_of_not_lt below
    have positive : number * Nat.pow 2 power ≠ 0 :=
      Nat.ne_of_gt (Nat.lt_of_lt_of_le (by decide) large)
    have bound : number * Nat.pow 2 power < 2 ^ (53 + power) := by
      rw [Nat.pow_add]
      exact Nat.mul_lt_mul_of_pos_right small (Nat.two_pow_pos power)
    have few : Nat.log2 (number * Nat.pow 2 power) - 52 ≤ power := by
      have := (Nat.log2_lt positive).mpr bound
      omega
    obtain ⟨quotient, whole⟩ : 2 ^ (Nat.log2 (number * Nat.pow 2 power) - 52) ∣
        number * Nat.pow 2 power :=
      Nat.dvd_mul_left_of_dvd (Nat.pow_dvd_pow 2 few) number
    rw [roundToBits, if_neg below]
    generalize Nat.log2 (number * Nat.pow 2 power) - 52 = bits at whole ⊢
    change roundHalfEven (number * Nat.pow 2 power) (2 ^ bits) * 2 ^ bits = number * Nat.pow 2 power
    rw [whole, roundHalfEven_mul (Nat.two_pow_pos bits), Nat.mul_comm]

/-- What is rounded stays at or above every power of two that it has reached, from `2 ^ 53` on: the
unit divides the power, so the quotient by the unit does not fall below that of the power. -/
theorem le_roundToBits {number power : Nat} (least : 53 ≤ power)
    (reached : Nat.pow 2 power ≤ number) : Nat.pow 2 power ≤ roundToBits number := by
  have large : Nat.pow 2 53 ≤ number :=
    Nat.le_trans (Nat.pow_le_pow_right (by decide) least) reached
  have positive : number ≠ 0 := Nat.ne_of_gt (Nat.lt_of_lt_of_le (by decide) large)
  have bits : power ≤ Nat.log2 number := (Nat.le_log2 positive).mpr reached
  have split : 2 ^ 52 * 2 ^ (Nat.log2 number - 52) = 2 ^ Nat.log2 number := by
    rw [← Nat.pow_add, Nat.add_sub_cancel' (by omega : 52 ≤ Nat.log2 number)]
  have whole : 2 ^ 52 ≤ number / 2 ^ (Nat.log2 number - 52) := by
    rw [Nat.le_div_iff_mul_le (Nat.two_pow_pos _), split]
    exact Nat.log2_self_le positive
  rw [roundToBits, if_neg (Nat.not_lt_of_le large)]
  calc 2 ^ power
    _ ≤ 2 ^ Nat.log2 number := Nat.pow_le_pow_right (by decide) bits
    _ = 2 ^ 52 * 2 ^ (Nat.log2 number - 52) := split.symm
    _ ≤ number / 2 ^ (Nat.log2 number - 52) * 2 ^ (Nat.log2 number - 52) :=
        Nat.mul_le_mul_right _ whole
    _ ≤ roundHalfEven number (2 ^ (Nat.log2 number - 52)) * 2 ^ (Nat.log2 number - 52) := by
        apply Nat.mul_le_mul_right
        rcases roundHalfEven_cases number (2 ^ (Nat.log2 number - 52)) with same | next <;> omega

/-- What is rounded grows by no more than the unit of its last bit. Numbers below 2^53 are kept as
they are; any other one goes to a multiple of that unit, either the one below or the next. -/
theorem roundToBits_le {number : Nat} (bits : Nat) (below : number < Nat.pow 2 (bits + 53)) :
    roundToBits number ≤ number + Nat.pow 2 bits := by
  by_cases small : number < Nat.pow 2 53
  · rw [roundToBits_of_lt small]
    exact Nat.le_add_right _ _
  · have large : Nat.pow 2 53 ≤ number := Nat.le_of_not_lt small
    have positive : number ≠ 0 := Nat.ne_of_gt (Nat.lt_of_lt_of_le (by decide) large)
    have few : Nat.log2 number - 52 ≤ bits := by
      have := (Nat.log2_lt positive).mpr below
      omega
    have whole : number / 2 ^ (Nat.log2 number - 52) * 2 ^ (Nat.log2 number - 52) ≤ number :=
      Nat.div_mul_le_self _ _
    have unit : 2 ^ (Nat.log2 number - 52) ≤ 2 ^ bits := Nat.pow_le_pow_right (by decide) few
    rw [roundToBits, if_neg small]
    change roundHalfEven number (2 ^ (Nat.log2 number - 52)) * 2 ^ (Nat.log2 number - 52) ≤
      number + 2 ^ bits
    rcases roundHalfEven_cases number (2 ^ (Nat.log2 number - 52)) with same | next
    · rw [same]
      exact Nat.le_trans whole (Nat.le_add_right _ _)
    · rw [next, Nat.add_mul, Nat.one_mul]
      exact Nat.add_le_add whole unit

end Outbox.Decimal
