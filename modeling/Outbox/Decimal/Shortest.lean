import Outbox.Decimal.Binary64

/-!
# The shortest decimal of a binary64

A binary64 is written with the fewest decimal digits that read back as it, and of several such
decimals with the nearest one. For one, two, three and more digits the two neighbours of the number
on that decimal grid are tried; the first grid with a hit wins, because a grid that has any point
close enough has one of these two.
-/

namespace Outbox.Decimal

/-- Decimal digits and the power of ten of the first of them: `123` at power 5 is `1.23e5`. -/
structure Scientific where
  /-- The digits, the first one not zero, and the last one neither unless it is the first. -/
  digits : List Char
  /-- The power of ten that the first digit counts. -/
  power : Int
  deriving Repr

/-- The interval of quotients that are nearer to a binary64 than to its neighbours, and whether
    its ends belong to it: an end is a half, which goes to the even significand. -/
structure Neighbourhood where
  /-- The lower end, counted in quarters of the unit. -/
  lower : Nat
  /-- The number itself, counted in quarters of the unit. -/
  centre : Nat
  /-- The upper end, counted in quarters of the unit. -/
  upper : Nat
  /-- The power of two of one quarter. -/
  quarter : Int
  /-- Whether the ends belong to the interval. -/
  closed : Bool

/-- The neighbourhood of a binary64 that is not zero. Below a power of two the neighbours are only
    half as far away. -/
def Binary64.neighbourhood (number : Binary64) : Neighbourhood :=
  let narrow := number.significand = Nat.pow 2 52 ∧ -1074 < number.exponent
  { lower := 4 * number.significand - if narrow then 1 else 2
    centre := 4 * number.significand
    upper := 4 * number.significand + 2
    quarter := number.exponent - 2
    closed := number.significand % 2 = 0 }

/-- Whether a multiple of a unit, given as a quotient, lies in the neighbourhood. -/
def Neighbourhood.holds (around : Neighbourhood) (multiple unitTop unitBottom : Nat) : Bool :=
  let (scale, divisor) := scaleQuotient 1 1 around.quarter
  let point := multiple * unitTop * divisor
  let lower := around.lower * scale * unitBottom
  let upper := around.upper * scale * unitBottom
  if around.closed then lower ≤ point && point ≤ upper else lower < point && point < upper

/-- A power of ten as a quotient. -/
def tenTo (power : Int) : Nat × Nat :=
  (Nat.pow 10 power.toNat, Nat.pow 10 (-power).toNat)

/-- The power of ten of the first digit of a quotient that is not zero. -/
def leadingPower (top bottom : Nat) : Int :=
  let estimate : Int :=
    ((Nat.toDigits 10 top).length : Int) - ((Nat.toDigits 10 bottom).length : Int)
  let (powerTop, powerBottom) := tenTo estimate
  if top * powerBottom < bottom * powerTop then estimate - 1 else estimate

/-- The multiple of the unit `10 ^ power` that reads back as the number, if one of its two
    neighbours does: the nearer one of two, and of two equally near ones the even one. -/
def Binary64.onGrid (number : Binary64) (power : Int) : Option Nat :=
  let around := number.neighbourhood
  let (top, bottom) := number.ratio
  let (unitTop, unitBottom) := tenTo power
  let below := top * unitBottom / (bottom * unitTop)
  let nearest := roundHalfEven (top * unitBottom) (bottom * unitTop)
  let other := if nearest = below then below + 1 else below
  if around.holds nearest unitTop unitBottom then some nearest
  else if around.holds other unitTop unitBottom then some other
  else none

/-- The digits of the first grid from a count of digits on that has a hit. Seventeen digits always
    suffice, which the last answer stands for. -/
def Binary64.searchGrids (number : Binary64) (leading : Int) : List Nat → Nat × Int
  | [] => ((number.onGrid (leading - 16)).getD 0, leading - 16)
  | count :: more =>
    match number.onGrid (leading - count) with
    | some multiple => (multiple, leading - count)
    | none => number.searchGrids leading more

/-- The shortest decimal of a binary64. -/
def Binary64.shortest (number : Binary64) : Scientific :=
  if number.isZero then ⟨['0'], 0⟩
  else
    let (top, bottom) := number.ratio
    let (multiple, power) := number.searchGrids (leadingPower top bottom) (List.range 17)
    let digits := Nat.toDigits 10 multiple
    let shown := (digits.reverse.dropWhile (· = '0')).reverse
    ⟨shown, power + digits.length - 1⟩

/-- The decimal text: positional while the first digit counts from `10 ^ -5` to `10 ^ 15`, with a
    digit on both sides of the point, and else with the exponent's sign always written. -/
def Scientific.text (number : Scientific) : List Char :=
  if -5 ≤ number.power ∧ number.power ≤ 15 then
    if number.power < 0 then
      ['0', '.'] ++ List.replicate ((-number.power).toNat - 1) '0' ++ number.digits
    else
      let whole := number.power.toNat + 1
      let fraction := number.digits.drop whole
      number.digits.take whole ++ List.replicate (whole - number.digits.length) '0' ++ ['.'] ++
        (if fraction.isEmpty then ['0'] else fraction)
  else
    let fraction := number.digits.drop 1
    let sign := if number.power < 0 then '-' else '+'
    number.digits.take 1 ++ (if fraction.isEmpty then [] else '.' :: fraction) ++ ['e', sign] ++
      Nat.toDigits 10 number.power.natAbs

/-- The text of a binary64: its sign and its shortest decimal. -/
def Binary64.text (number : Binary64) : String :=
  let sign := if number.negative then ['-'] else []
  String.ofList (sign ++ number.shortest.text)

end Outbox.Decimal
