import CalcScript.Proofs.Numbers.Whole

/-!
# How every double is written

A double is its sign and its size. Without its sign a finite one is written in digits, with a point
among them unless it is whole: a decimal without places that identifies a double is rounded to that
double, and whole numbers are only rounded to whole doubles.
-/

set_option autoImplicit false

namespace CalcScript

namespace Binary64

theorem ofPattern_sizePattern (number : Float) :
    ofPattern (isNegative number) (sizePattern number) = number := by
  have sign : signPattern = 9223372036854775808 := rfl
  have bits := number.toBits.toNat_lt
  have whole : (if isNegative number then signPattern + sizePattern number
      else sizePattern number) = number.toBits.toNat := by
    unfold isNegative sizePattern
    by_cases negative : signPattern ≤ number.toBits.toNat
    · rw [decide_eq_true negative, if_pos rfl, sign]
      omega
    · rw [decide_eq_false negative, if_neg Bool.false_ne_true, sign]
      omega
  rw [ofPattern, whole, UInt64.ofNat_toNat, Float.ofBits_toBits]

/-- A shortest decimal without places is a whole number that identifies the double. -/
theorem identifies_of_places_eq_zero {pattern place : Nat}
    (noPlaces : (shortestFrom pattern place).places = 0) :
    identifies pattern ((shortestFrom pattern place).digits * Nat.pow 10 1074) = true := by
  induction place with
  | zero => cases noPlaces
  | succ place ih =>
      rw [shortestFrom] at noPlaces ⊢
      cases found : nearestMultiple? pattern (Nat.pow 10 (place + 1)) with
      | none =>
          rw [found] at noPlaces
          exact ih noPlaces
      | some count =>
          rw [found] at noPlaces
          have identified := identifies_of_nearestMultiple? found
          by_cases above : 1074 ≤ place + 1
          · dsimp only
            rwa [decimalAt, if_pos above, Nat.mul_assoc, pow_ten_sub above]
          · dsimp only at noPlaces
            rw [decimalAt, if_neg above] at noPlaces
            exact absurd (Nat.le_of_sub_eq_zero noPlaces) above

theorem places_ne_zero {pattern : Nat} (finite : pattern < infinityPattern)
    (broken : ¬unitsPerOne ∣ units pattern) : (shortest pattern).places ≠ 0 := by
  intro noPlaces
  have multiple : ∀ amount, nearestPattern (amount * unitsPerOne) 1 = pattern →
      unitsPerOne ∣ units pattern := by
    rintro amount rfl
    exact pow_dvd_units finite
  have identified := identifies_of_places_eq_zero noPlaces
  rw [pow_ten_eq, ← Nat.mul_assoc] at identified
  exact broken (multiple _ ((identifies_iff.mp identified).nearestPattern_eq_pattern finite))

/-- Every finite whole size is that of a whole number. -/
theorem exists_decimalPattern {pattern : Nat} (finite : pattern < infinityPattern)
    (whole : unitsPerOne ∣ units pattern) :
    ∃ number, Number.decimalPattern number 0 = pattern := by
  by_cases zero : pattern = 0
  · exact ⟨0, zero.symm⟩
  · obtain ⟨number, -, rounded⟩ := exists_shortest finite zero whole
    refine ⟨number, (Number.decimalPattern_eq ?_).trans rounded⟩
    rintro rfl
    rw [Nat.zero_mul] at rounded
    exact zero rounded.symm

end Binary64

namespace Number

open Binary64

theorem exists_point {decimal : Decimal} (places : decimal.places ≠ 0) :
    ∃ front back, (∀ character ∈ front, isDigit character = true) ∧
      decimalText decimal = front ++ '.' :: back := by
  rw [decimalText, if_neg places]
  refine ⟨_, _, fun character among => ?_, rfl⟩
  rcases List.mem_append.mp (List.mem_of_mem_take among) with zero | digit
  · rw [List.eq_of_mem_replicate zero]
    rfl
  · rw [Token.isDigit_eq]
    exact Nat.isDigit_of_mem_toDigits (by decide) (by decide) digit

theorem ofPattern_of_positive {number : Float} (positive : isNegative number = false) :
    ofPattern false (sizePattern number) = number := by
  have whole := ofPattern_sizePattern number
  rwa [positive] at whole

/-- A minus sign is put in front of a size. -/
theorem text_of_negative {number : Float} {characters : List Char}
    (negative : isNegative number = true) (proper : sizePattern number ≤ infinityPattern)
    (written : text (ofPattern false (sizePattern number)) = String.ofList characters) :
    text number = String.ofList ('-' :: characters) := by
  change text number = String.ofList (['-'] ++ characters)
  rw [String.ofList_append, ← written]
  simp only [text, sizePattern_ofPattern proper, isNegative_ofPattern proper, negative]
  rw [if_neg (Nat.not_lt.mpr proper), if_neg (Nat.not_lt.mpr proper), if_pos trivial,
    if_neg Bool.false_ne_true]

theorem text_noNumber {number : Float} (above : infinityPattern < sizePattern number) :
    text number = "NaN" := by
  rw [text]
  exact if_pos above

theorem exists_digits {pattern : Nat} (finite : pattern < infinityPattern)
    (whole : unitsPerOne ∣ units pattern) :
    ∃ digits, digits ≠ [] ∧ (∀ character ∈ digits, isDigit character = true) ∧
      text (ofPattern false pattern) = String.ofList digits ∧
      read? (String.ofList digits) = some (ofPattern false pattern) := by
  obtain ⟨number, rfl⟩ := exists_decimalPattern finite whole
  exact exists_digits_of_finite finite

theorem exists_digits_and_point {pattern : Nat} (finite : pattern < infinityPattern)
    (broken : ¬unitsPerOne ∣ units pattern) :
    ∃ front back, (∀ character ∈ front, isDigit character = true) ∧
      text (ofPattern false pattern) = String.ofList (front ++ '.' :: back) := by
  have nonzero : pattern ≠ 0 := by
    rintro rfl
    exact broken (Nat.dvd_zero _)
  obtain ⟨front, back, digits, written⟩ := exists_point (places_ne_zero finite broken)
  refine ⟨front, back, digits, ?_⟩
  rw [text_finite finite, if_neg nonzero, written]

end Number

end CalcScript
