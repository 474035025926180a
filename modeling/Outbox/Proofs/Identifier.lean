import Outbox.Identifier

/-!
# Written identifiers

An identifier is written in thirty-two hexadecimal digits in five groups, and is read back from
them. The digits of a width hold the number modulo that power of sixteen, and an identifier is
below the power of its own width.
-/

namespace Outbox.Identifier

/-- A written digit has the value that was written. -/
theorem hexValue?_hexDigit (number : Nat) :
    Json.hexValue? (hexDigit number) = some (number % 16) := by
  have sixteen : ∀ digit < 16, Json.hexValue? (Nat.digitChar digit) = some digit := by decide
  exact sixteen (number % 16) (Nat.mod_lt number (by decide))

/-- As many digits are written as are asked for. -/
theorem length_digits (width number : Nat) : (digits width number).length = width := by
  induction width generalizing number with
  | zero => rfl
  | succ width inductionHypothesis =>
    rw [digits, List.length_append, inductionHypothesis, List.length_singleton]

/-- All that the digits of a number are made of has a value. -/
theorem hexValue?_of_mem_digits {width number : Nat} {char : Char}
    (member : char ∈ digits width number) : (Json.hexValue? char).isSome := by
  induction width generalizing number with
  | zero => cases member
  | succ width inductionHypothesis =>
    rcases List.mem_append.mp member with earlier | last
    · exact inductionHypothesis earlier
    · rw [List.mem_singleton.mp last, hexValue?_hexDigit]
      rfl

/-- Putting hyphens among digits brings in nothing but hyphens. So what holds of the digits holds of
all characters but these. -/
theorem mem_hyphenated {digits : List Char} {char : Char} (member : char ∈ hyphenated digits) :
    char ∈ digits ∨ char = '-' := by
  have inGroup {start width : Nat} (inside : char ∈ (digits.drop start).take width) :
      char ∈ digits :=
    List.mem_of_mem_drop (List.mem_of_mem_take inside)
  simp only [hyphenated, List.mem_append, List.mem_cons] at member
  rcases member with
    (((first | hyphen | second) | hyphen | third) | hyphen | fourth) | hyphen | fifth
  · exact Or.inl (List.mem_of_mem_take first)
  · exact Or.inr hyphen
  · exact Or.inl (inGroup second)
  · exact Or.inr hyphen
  · exact Or.inl (inGroup third)
  · exact Or.inr hyphen
  · exact Or.inl (inGroup fourth)
  · exact Or.inr hyphen
  · exact Or.inl (List.mem_of_mem_drop fifth)

/-- The written form of an identifier is made of digits and hyphens. -/
theorem mem_text {identifier : Identifier} {char : Char}
    (member : char ∈ identifier.text.toList) : (Json.hexValue? char).isSome ∨ char = '-' := by
  rw [text, String.toList_ofList] at member
  exact (mem_hyphenated member).imp_left hexValue?_of_mem_digits

/-- The last digits of a number hold what is left of it modulo the power of sixteen. Induct over the
width; the last digit is written last and read last. -/
theorem ofDigits?_digits (width number : Nat) :
    ofDigits? (digits width number) = some (number % Nat.pow 16 width) := by
  induction width generalizing number with
  | zero =>
    change _ = some (number % 1)
    rw [Nat.mod_one]
    rfl
  | succ width inductionHypothesis =>
    have before := inductionHypothesis (number / 16)
    rw [ofDigits?] at before
    rw [ofDigits?, digits, List.foldlM_append, before]
    simp only [Option.bind_eq_bind, Option.bind_some, List.foldlM_cons, List.foldlM_nil,
      hexValue?_hexDigit, Option.map_some, Option.pure_def]
    congr 1
    have power : Nat.pow 16 (width + 1) = 16 * Nat.pow 16 width := Nat.pow_succ'
    rw [power, Nat.mod_mul]
    omega

/-- The five groups joined are all digits. -/
theorem joined_groups (digits : List Char) :
    digits.take 8 ++ ((digits.drop 8).take 4 ++ ((digits.drop 12).take 4 ++
      ((digits.drop 16).take 4 ++ digits.drop 20))) = digits := by
  have fromFourth := List.take_append_drop 4 (digits.drop 16)
  have fromThird := List.take_append_drop 4 (digits.drop 12)
  have fromSecond := List.take_append_drop 4 (digits.drop 8)
  simp only [List.drop_drop, Nat.reduceAdd] at fromFourth fromThird fromSecond
  rw [fromFourth, fromThird, fromSecond, List.take_append_drop]

/-- Digits are found again between the hyphens that were put among them. Only the lengths of the
groups matter for this. -/
theorem ungrouped?_hyphenated {digits : List Char} (all : digits.length = 32) :
    ungrouped? (hyphenated digits) = some digits := by
  have regrouped : (hyphenated digits).take 8 ++ ((hyphenated digits).drop 9).take 4 ++
      ((hyphenated digits).drop 14).take 4 ++ ((hyphenated digits).drop 19).take 4 ++
      (hyphenated digits).drop 24 = digits := by
    have first : (digits.take 8).length = 8 := by simp [all]
    have second : ((digits.drop 8).take 4).length = 4 := by simp [all]
    have third : ((digits.drop 12).take 4).length = 4 := by simp [all]
    have fourth : ((digits.drop 16).take 4).length = 4 := by simp [all]
    have joined := joined_groups digits
    rw [hyphenated]
    -- Only the groups and their lengths count from here on.
    generalize digits.take 8 = group at *
    generalize (digits.drop 8).take 4 = secondGroup at *
    generalize (digits.drop 12).take 4 = thirdGroup at *
    generalize (digits.drop 16).take 4 = fourthGroup at *
    simp [List.drop_append, List.drop_eq_nil_of_le, first, second, third, fourth, joined]
  rw [ungrouped?, regrouped, if_pos rfl]

/-- Four hyphens among thirty-two digits make thirty-six characters. -/
theorem length_hyphenated {digits : List Char} (all : digits.length = 32) :
    (hyphenated digits).length = 36 := by
  simp [hyphenated, all]

/-- An identifier has no more bits than its digits hold. -/
theorem number_mod_digits (identifier : Identifier) :
    identifier.number % Nat.pow 16 32 = identifier.number := by
  have powers : Nat.pow 16 32 = Nat.pow 2 128 := by decide
  rw [powers]
  exact Nat.mod_eq_of_lt identifier.bounded

/-- An identifier is the one of its number. -/
theorem ofNumber_number (identifier : Identifier) : ofNumber identifier.number = identifier := by
  obtain ⟨number, bounded⟩ := identifier
  simp only [ofNumber, Nat.mod_eq_of_lt bounded]

/-- An identifier is read back from its written form. -/
theorem parse_text (identifier : Identifier) : parse identifier.text = .ok identifier := by
  have all := length_digits 32 identifier.number
  have found : digits? (hyphenated (digits 32 identifier.number)) =
      some (digits 32 identifier.number) := by
    rw [digits?, length_hyphenated all, if_neg (by decide), if_pos rfl, ungrouped?_hyphenated all]
  rw [parse, text, String.toList_ofList]
  simp only [found, Option.bind_some, ofDigits?_digits, number_mod_digits, ofNumber_number]

end Outbox.Identifier
