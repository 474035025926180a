import Mathlib.Algebra.Ring.Nat
import Mathlib.Logic.ExistsUnique
import Outbox.Gtin

/-!
# Trade item numbers and their sums

A text is accepted as a trade item number exactly if it has a legal number of digits and their
weighted sum, the check digit among them, is a multiple of ten. A digit adds one or three times its
value to the sum, depending on how many digits follow it, and neither factor has a divisor in common
with ten: so the code notices every wrong digit. Two neighbours count differently, and exchanging
them changes the sum by twice their difference, which ten divides if five divides the difference.
-/

namespace Outbox.Gtin

/-- A legal number of digits whose sum is a multiple of ten when they count 1, 3, 1, 3 and so on
from the last one leftwards. -/
def IsNumber (text : String) : Prop :=
  text.toList.length ∈ legalLengths ∧ (∀ char ∈ text.toList, char.isDigit = true) ∧
    weightedSum 1 (text.toList.map digitValue).reverse % 10 = 0

/-- A code is well formed exactly if it has one of the lengths and consists of digits. -/
theorem wellFormed_iff (digits : List Char) :
    wellFormed digits = true ↔
      digits.length ∈ legalLengths ∧ ∀ char ∈ digits, char.isDigit = true := by
  rw [wellFormed, Bool.and_eq_true, List.contains_iff_mem, List.all_eq_true]

/-- A decimal digit stands for a number below ten. -/
theorem digitValue_lt {char : Char} (digit : char.isDigit = true) : digitValue char < 10 := by
  have upTo : char.toNat ≤ 57 := (Char.isDigit_iff_toNat.mp digit).2
  have zero : '0'.toNat = 48 := rfl
  rw [digitValue]
  omega

/-- The last digit is the check digit of the ones before it exactly if the sum of all of them is a
multiple of ten: the check digit fills the sum of the others up to the next multiple. -/
theorem checks_concat_iff (body : List Nat) {last : Nat} (digit : last < 10) :
    checks (body ++ [last]) = true ↔ weightedSum 1 (body ++ [last]).reverse % 10 = 0 := by
  have first : weightedSum 1 (last :: body.reverse) = last + weightedSum 3 body.reverse := by
    rw [weightedSum, Nat.one_mul]
  rw [checks, decide_eq_true_eq, List.getLast?_concat, List.dropLast_concat, Option.some_inj,
    checkDigit, List.reverse_concat, first]
  omega

/-- What is accepted as a trade item number is one, and nothing else. The check looks at the last
digit apart from the others, and the sum of all weighted digits says the same. -/
theorem validate_ok_iff (text : String) : validate text = .ok () ↔ IsNumber text := by
  rw [validate, IsNumber, ← and_assoc, ← wellFormed_iff]
  cases formed : wellFormed text.toList with
  | false => simp
  | true =>
    obtain ⟨legal, digits⟩ := (wellFormed_iff _).mp formed
    have filled : text.toList ≠ [] := by
      intro empty
      rw [empty] at legal
      exact absurd legal (by decide)
    have last : digitValue (text.toList.getLast filled) < 10 :=
      digitValue_lt (digits _ (List.getLast_mem filled))
    have checked := checks_concat_iff (text.toList.dropLast.map digitValue) last
    rw [← List.map_singleton, ← List.map_append, List.dropLast_concat_getLast filled] at checked
    rw [← checked]
    by_cases accepted : checks (text.toList.map digitValue) = true
    · simp [accepted]
    · simp [accepted]

/-! ## What one digit adds -/

/-- The weight of the digit that has some digits behind it, when the last digit has a given one. -/
def weightBefore (last behind : Nat) : Nat :=
  if behind % 2 = 0 then last else 4 - last

/-- Weights alternate between one and three. -/
theorem weightBefore_cases (behind : Nat) :
    weightBefore 1 behind = 1 ∧ weightBefore 1 (behind + 1) = 3 ∨
      weightBefore 1 behind = 3 ∧ weightBefore 1 (behind + 1) = 1 := by
  rcases Nat.mod_two_eq_zero_or_one behind with even | odd
  · exact .inl ⟨if_pos even, if_neg (by omega)⟩
  · exact .inr ⟨if_neg (by omega), if_pos (by omega)⟩

/-- One place further to the left, a place has the other weight. -/
theorem weightBefore_succ {last : Nat} (small : last ≤ 4) (behind : Nat) :
    weightBefore last (behind + 1) = weightBefore (4 - last) behind := by
  rw [weightBefore, weightBefore]
  rcases Nat.mod_two_eq_zero_or_one behind with even | odd
  · rw [if_neg (by omega), if_pos even]
  · rw [if_pos (by omega), if_neg (by omega)]
    omega

/-- The weights go on in turns behind the digits of a first sum. -/
theorem weightedSum_append {last : Nat} (small : last ≤ 4) (first others : List Nat) :
    weightedSum last (first ++ others) =
      weightedSum last first + weightedSum (weightBefore last first.length) others := by
  induction first generalizing last with
  | nil => simp [weightedSum, weightBefore]
  | cons digit rest inductionHypothesis =>
    rw [List.cons_append, weightedSum, weightedSum, inductionHypothesis (by omega),
      List.length_cons, weightBefore_succ small]
    omega

/-- The sum adds up the values of the digits, each one times the weight of its place. -/
theorem weightedSum_eq_sum {last : Nat} (small : last ≤ 4) (digits : List Char) :
    weightedSum last (digits.map digitValue) =
      (digits.mapIdx fun behind char => weightBefore last behind * digitValue char).sum := by
  induction digits generalizing last with
  | nil => rfl
  | cons char rest inductionHypothesis =>
    rw [List.map_cons, weightedSum, List.mapIdx_cons, List.sum_cons, inductionHypothesis (by omega)]
    simp only [weightBefore_succ small]
    rfl

/-- Zeros weigh nothing. -/
theorem weightedSum_zeros (last count : Nat) : weightedSum last (List.replicate count 0) = 0 := by
  induction count generalizing last with
  | zero => rfl
  | succ count inductionHypothesis =>
    rw [List.replicate_succ, weightedSum, inductionHypothesis, Nat.mul_zero]

/-- The sum of the digits of a number, which count 1, 3, 1, 3 and so on from the last one
leftwards. -/
def total (digits : List Char) : Nat :=
  weightedSum 1 (digits.map digitValue).reverse

/-- What is left of a sum when one digit and the digits behind it are taken out. -/
def totalBefore (front : List Char) (behind : Nat) : Nat :=
  weightedSum (weightBefore 1 behind) (front.map digitValue).reverse

/-- A sum is made of what the digits behind a digit, the digit itself and those before it add. -/
theorem total_split (front : List Char) (digit : Char) (back : List Char) :
    total (front ++ digit :: back) =
      total back + weightBefore 1 back.length * digitValue digit +
        totalBefore front (back.length + 1) := by
  have turned : (4 - weightBefore 1 back.length) = weightBefore 1 (back.length + 1) := by
    have := weightBefore_cases back.length
    omega
  rw [total, List.map_append, List.map_cons, List.reverse_append, List.reverse_cons,
    List.append_assoc, List.singleton_append, weightedSum_append (by decide), weightedSum,
    List.length_reverse, List.length_map, turned, ← total, ← totalBefore]
  omega

/-- What a trade item number is, said of its digits. -/
theorem isNumber_ofList (digits : List Char) :
    IsNumber (.ofList digits) ↔ digits.length ∈ legalLengths ∧
      (∀ char ∈ digits, char.isDigit = true) ∧ total digits % 10 = 0 := by
  rw [IsNumber, String.toList_ofList, total]

/-! ## Errors -/

/-- Two digits of one value are the same. -/
theorem digitValue_inj {left right : Char} (digit : left.isDigit = true)
    (otherDigit : right.isDigit = true) (same : digitValue left = digitValue right) :
    left = right := by
  rw [Char.isDigit_iff_toNat] at digit otherDigit
  rw [digitValue, digitValue] at same
  exact Char.toNat_inj.mp (by omega)

/-- With another digit in one place a number is none any more: the weights are one and three, and
neither takes two different digits to the same rest of ten. -/
theorem wrong_digit_rejected {front back : List Char} {digit other : Char}
    (accepted : validate (.ofList (front ++ digit :: back)) = .ok ())
    (isDigit : other.isDigit = true) (wrong : other ≠ digit) :
    validate (.ofList (front ++ other :: back)) ≠ .ok () := by
  intro also
  rw [validate_ok_iff, isNumber_ofList, total_split] at accepted also
  obtain ⟨_, digits, sum⟩ := accepted
  obtain ⟨_, _, otherSum⟩ := also
  have wasDigit : digit.isDigit = true := digits digit (by simp)
  have small := digitValue_lt wasDigit
  have otherSmall := digitValue_lt isDigit
  have same : digitValue other = digitValue digit := by
    rcases weightBefore_cases back.length with ⟨weight, -⟩ | ⟨weight, -⟩ <;>
    · rw [weight] at sum otherSum
      omega
  exact wrong (digitValue_inj isDigit wasDigit same)

/-- With two neighbours exchanged a number is still one exactly if they differ by nothing or by
five. -/
theorem exchanged_accepted_iff {front back : List Char} {left right : Char}
    (accepted : validate (.ofList (front ++ left :: right :: back)) = .ok ()) :
    validate (.ofList (front ++ right :: left :: back)) = .ok () ↔
      ((digitValue left : Int) - digitValue right).natAbs = 0 ∨
        ((digitValue left : Int) - digitValue right).natAbs = 5 := by
  have sums (first second : Char) : total (front ++ first :: second :: back) =
      total back + weightBefore 1 back.length * digitValue second +
        weightBefore 1 (back.length + 1) * digitValue first +
        totalBefore front (back.length + 2) := by
    have behind := total_split [] second back
    rw [List.nil_append, totalBefore, List.map_nil, List.reverse_nil, weightedSum] at behind
    rw [total_split, behind, List.length_cons]
    rfl
  rw [validate_ok_iff, isNumber_ofList, sums] at accepted ⊢
  obtain ⟨legal, digits, sum⟩ := accepted
  have leftSmall := digitValue_lt (digits left (by simp))
  have rightSmall := digitValue_lt (digits right (by simp))
  have exchange : (front ++ right :: left :: back).Perm (front ++ left :: right :: back) :=
    (List.Perm.swap left right back).append_left front
  have stillLegal : (front ++ right :: left :: back).length ∈ legalLengths := by
    rwa [exchange.length_eq]
  have stillDigits : ∀ char ∈ front ++ right :: left :: back, char.isDigit = true :=
    fun char member => digits char (exchange.mem_iff.mp member)
  rw [and_iff_right stillLegal, and_iff_right stillDigits]
  rcases weightBefore_cases back.length with ⟨weight, next⟩ | ⟨weight, next⟩ <;>
  · rw [weight, next] at sum ⊢
    omega

/-- Zeros in front add nothing to a sum. -/
theorem total_zeros_append (count : Nat) (digits : List Char) :
    total (List.replicate count '0' ++ digits) = total digits := by
  have zero : digitValue '0' = 0 := rfl
  rw [total, List.map_append, List.map_replicate, zero, List.reverse_append, List.reverse_replicate,
    weightedSum_append (by decide), weightedSum_zeros, ← total, Nat.add_zero]

/-- A text that is filled up with zeros from one legal length to another is a number exactly if it
was one. -/
theorem padded_accepted_iff {count : Nat} {digits : List Char}
    (legal : digits.length ∈ legalLengths) (paddedLegal : count + digits.length ∈ legalLengths) :
    validate (.ofList (List.replicate count '0' ++ digits)) = .ok () ↔
      validate (.ofList digits) = .ok () := by
  have length : (List.replicate count '0' ++ digits).length ∈ legalLengths := by
    rwa [List.length_append, List.length_replicate]
  rw [validate_ok_iff, validate_ok_iff, isNumber_ofList, isNumber_ofList, total_zeros_append,
    and_iff_right legal, and_iff_right length]
  refine and_congr_left fun _ => ⟨fun all char member => all char (by simp [member]), ?_⟩
  intro all char member
  rcases List.mem_append.mp member with zero | inside
  · rw [List.eq_of_mem_replicate zero]
    rfl
  · exact all char inside

/-! ## The check digit -/

/-- The digits before the last one leave exactly one digit for the last place: the check digit. It
is what is missing to a multiple of ten, since the last place has the weight one. -/
theorem complete_accepted_iff {body : List Char} (legal : body.length + 1 ∈ legalLengths)
    (digits : ∀ char ∈ body, char.isDigit = true) (check : Char) :
    validate (.ofList (body ++ [check])) = .ok () ↔
      check.isDigit = true ∧ digitValue check = checkDigit (body.map digitValue) := by
  have length : (body ++ [check]).length ∈ legalLengths := by
    rwa [List.length_append, List.length_singleton]
  have sum : total (body ++ [check]) =
      digitValue check + weightedSum 3 (body.map digitValue).reverse := by
    rw [total_split]
    simp [total, weightedSum, weightBefore, totalBefore]
  rw [validate_ok_iff, isNumber_ofList, and_iff_right length, sum, checkDigit]
  constructor
  · rintro ⟨all, zero⟩
    have isDigit := all check (by simp)
    have small := digitValue_lt isDigit
    exact ⟨isDigit, by omega⟩
  · rintro ⟨isDigit, value⟩
    refine ⟨?_, by omega⟩
    intro char member
    rcases List.mem_append.mp member with inside | last
    · exact digits char inside
    · rwa [List.mem_singleton.mp last]

/-- Digits of a legal length without the last one have exactly one check digit. There is one since
the weight of the last place is one, so that it can make up any rest, and no other one leaves the
same rest. -/
theorem exists_unique_check_digit {body : List Char} (legal : body.length + 1 ∈ legalLengths)
    (digits : ∀ char ∈ body, char.isDigit = true) :
    ∃! check : Char, validate (.ofList (body ++ [check])) = .ok () := by
  simp only [complete_accepted_iff legal digits]
  have small : checkDigit (body.map digitValue) < 10 := Nat.mod_lt _ (by decide)
  refine ⟨Nat.digitChar (checkDigit (body.map digitValue)), ⟨?_, ?_⟩, ?_⟩
  · rw [Nat.isDigit_digitChar, decide_eq_true small]
  · rw [digitValue, Nat.toNat_digitChar_of_lt_ten small]
    exact Nat.add_sub_cancel_left 48 _
  · rintro other ⟨isDigit, value⟩
    refine digitValue_inj isDigit ?_ ?_
    · rw [Nat.isDigit_digitChar, decide_eq_true small]
    · rw [value, digitValue, Nat.toNat_digitChar_of_lt_ten small]
      exact (Nat.add_sub_cancel_left 48 _).symm

/-! ## The code -/

/-- The sum of a number as it is written out, digit by digit from the last one leftwards. -/
theorem total_eq_sum (digits : List Char) :
    total digits = (digits.reverse.mapIdx fun behind char =>
      (if behind % 2 = 0 then 1 else 3) * digitValue char).sum := by
  rw [total, ← List.map_reverse, weightedSum_eq_sum (by decide)]
  rfl

/-- Trade item numbers are a check digit code. A text is accepted exactly if it has 8, 12, 13 or 14
digits and ten divides their sum, in which they count 1, 3, 1, 3 and so on from the last one
leftwards. So the digits before the last one leave one choice for the last one, another digit in one
place is always noticed, two neighbours may be exchanged exactly if they differ by nothing or by
five, and zeros in front make no difference between one legal length and another. -/
theorem check_digit_code :
    (∀ text : String, validate text = .ok () ↔
      text.toList.length ∈ [8, 12, 13, 14] ∧ (∀ char ∈ text.toList, char.isDigit = true) ∧
        (text.toList.reverse.mapIdx fun behind char =>
          (if behind % 2 = 0 then 1 else 3) * digitValue char).sum % 10 = 0) ∧
    (∀ body : List Char, body.length ∈ [7, 11, 12, 13] → (∀ char ∈ body, char.isDigit = true) →
      ∃! check : Char, validate (.ofList (body ++ [check])) = .ok ()) ∧
    (∀ (front back : List Char) (digit other : Char),
      validate (.ofList (front ++ digit :: back)) = .ok () →
      other.isDigit = true → other ≠ digit →
        validate (.ofList (front ++ other :: back)) ≠ .ok ()) ∧
    (∀ (front back : List Char) (left right : Char),
      validate (.ofList (front ++ left :: right :: back)) = .ok () →
        (validate (.ofList (front ++ right :: left :: back)) = .ok () ↔
          ((digitValue left : Int) - digitValue right).natAbs = 0 ∨
            ((digitValue left : Int) - digitValue right).natAbs = 5)) ∧
    ∀ (count : Nat) (digits : List Char),
      digits.length ∈ [8, 12, 13, 14] → count + digits.length ∈ [8, 12, 13, 14] →
        (validate (.ofList (List.replicate count '0' ++ digits)) = .ok () ↔
          validate (.ofList digits) = .ok ()) := by
  refine ⟨?_, ?_, ?_, ?_, ?_⟩
  · intro text
    rw [validate_ok_iff, IsNumber, ← total, total_eq_sum, legalLengths]
  · intro body length digits
    have legal : body.length + 1 ∈ legalLengths := by
      simp only [List.mem_cons, List.not_mem_nil, or_false] at length
      rcases length with length | length | length | length <;> rw [length] <;> decide
    exact exists_unique_check_digit legal digits
  · intro front back digit other accepted isDigit wrong
    exact wrong_digit_rejected accepted isDigit wrong
  · intro front back left right accepted
    exact exchanged_accepted_iff accepted
  · intro count digits legal paddedLegal
    exact padded_accepted_iff legal paddedLegal

/-- A pen has the number 4006381333931. With 7 for 8 it is refused. Its neighbours 3 and 8 may be
exchanged, its neighbours 6 and 3 may not, and it stays a number with a zero in front. -/
theorem pen_number_guarded :
    validate (.ofList ("4006".toList ++ '3' :: '8' :: "1333931".toList)) = .ok () ∧
      validate (.ofList ("40063".toList ++ '7' :: "1333931".toList)) ≠ .ok () ∧
      validate (.ofList ("4006".toList ++ '8' :: '3' :: "1333931".toList)) = .ok () ∧
      validate (.ofList ("400".toList ++ '3' :: '6' :: "81333931".toList)) ≠ .ok () ∧
      validate (.ofList ("04006381333931".toList)) = .ok () := by
  obtain ⟨-, -, wrong, exchanged, padded⟩ := check_digit_code
  have pen : validate (.ofList ("4006".toList ++ '3' :: '8' :: "1333931".toList)) = .ok () := rfl
  refine ⟨pen, ?_, ?_, ?_, ?_⟩
  · exact wrong "40063".toList "1333931".toList '8' '7' pen (by decide) (by decide)
  · exact (exchanged "4006".toList "1333931".toList '3' '8' pen).mpr (by decide)
  · exact mt (exchanged "400".toList "81333931".toList '6' '3' pen).mp (by decide)
  · exact (padded 1 "4006381333931".toList (by decide) (by decide)).mpr pen

end Outbox.Gtin
