/-!
# Binary fractions of 53 bits

A number with a fraction or beyond the integers of 64 bits is held as a binary64: a sign and a
magnitude `significand · 2 ^ exponent` whose significand has at most 53 bits. All arithmetic is on
whole numbers; a quotient is rounded to the nearest binary64, a half going to the even neighbour.
-/

namespace Outbox.Decimal

/-- A finite binary64. Zero keeps its sign. -/
structure Binary64 where
  /-- Whether the number is below zero, or is the zero below zero. -/
  negative : Bool
  /-- The bits of the magnitude, fewer than 54. -/
  significand : Nat
  /-- The power of two that the significand counts, from -1074 to 971. -/
  exponent : Int
  deriving DecidableEq, Repr, Inhabited

/-- The quotient rounded to the nearest whole number, a half to the even one. The divisor is not
    zero. -/
def roundHalfEven (numerator denominator : Nat) : Nat :=
  let quotient := numerator / denominator
  let twice := 2 * (numerator % denominator)
  if twice < denominator then quotient
  else if denominator < twice then quotient + 1
  else if quotient % 2 = 0 then quotient else quotient + 1

/-- A whole number rounded to 53 significant bits, a half to the even neighbour. Numbers below
    `2 ^ 53` stay as they are. -/
def roundToBits (number : Nat) : Nat :=
  if number < Nat.pow 2 53 then number
  else
    let unit := Nat.pow 2 (Nat.log2 number - 52)
    roundHalfEven number unit * unit

/-- A quotient of whole numbers multiplied by a power of two, as one quotient. -/
def scaleQuotient (numerator denominator : Nat) (power : Int) : Nat × Nat :=
  (numerator * Nat.pow 2 power.toNat, denominator * Nat.pow 2 (-power).toNat)

namespace Binary64

/-- The zero of a sign. -/
def zero (negative : Bool) : Binary64 :=
  ⟨negative, 0, -1074⟩

/-- Whether the magnitude is zero. -/
def isZero (number : Binary64) : Bool :=
  number.significand = 0

/-- The magnitude as a quotient of whole numbers. -/
def ratio (number : Binary64) : Nat × Nat :=
  scaleQuotient number.significand 1 number.exponent

/-- The binary64 nearest to a quotient, or nothing when that is beyond the largest one. -/
def ofRatio (negative : Bool) (numerator denominator : Nat) : Option Binary64 :=
  if numerator = 0 then some (zero negative)
  else
    let estimate : Int := (Nat.log2 numerator : Int) - (Nat.log2 denominator : Int) - 52
    let (top, bottom) := scaleQuotient numerator denominator (-estimate)
    let exact := if top < bottom * Nat.pow 2 52 then estimate - 1 else estimate
    let exponent := max exact (-1074)
    let (top, bottom) := scaleQuotient numerator denominator (-exponent)
    let rounded := roundHalfEven top bottom
    let (significand, exponent) :=
      if rounded = Nat.pow 2 53 then (Nat.pow 2 52, exponent + 1) else (rounded, exponent)
    if significand = 0 then some (zero negative)
    else if 971 < exponent then none
    else some ⟨negative, significand, exponent⟩

/-- The power of ten nearest to `10 ^ power`, as a quotient. Exact up to the power 22. -/
def powerOfTen (power : Nat) : Nat × Nat :=
  match ofRatio false (Nat.pow 10 power) 1 with
  | some number => number.ratio
  | none => (Nat.pow 10 power, 1)

/-- The product with a power of ten that was itself rounded to a binary64. -/
def timesPower (number : Binary64) (power : Nat) : Option Binary64 :=
  let (top, bottom) := number.ratio
  let (powerTop, powerBottom) := powerOfTen power
  ofRatio number.negative (top * powerTop) (bottom * powerBottom)

/-- The quotient by a power of ten that was itself rounded to a binary64. It never grows, so
    there is always one. -/
def overPower (number : Binary64) (power : Nat) : Binary64 :=
  let (top, bottom) := number.ratio
  let (powerTop, powerBottom) := powerOfTen power
  (ofRatio number.negative (top * powerBottom) (bottom * powerTop)).getD (zero number.negative)

/-- A number multiplied by ten to a power, in steps of at most 308, the largest power that a
    binary64 holds. Each step rounds. Nothing when the magnitude is too large. -/
def scaleByTen (number : Binary64) (power : Int) : Option Binary64 :=
  if number.isZero then some number
  else if 308 < power then none
  else if 0 ≤ power then number.timesPower power.toNat
  else if -308 ≤ power then some (number.overPower (-power).toNat)
  else scaleByTen (number.overPower 308) (power + 308)
termination_by (-power).toNat
decreasing_by omega

/-- The number `digits · 10 ^ power` as it is read from its digits: the digits are rounded first,
    then every scaling step rounds again. -/
def ofDigits (negative : Bool) (digits : Nat) (power : Int) : Option Binary64 :=
  (ofRatio negative digits 1).bind fun number => number.scaleByTen power

end Binary64

end Outbox.Decimal
