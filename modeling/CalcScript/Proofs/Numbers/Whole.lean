import CalcScript.Number.Numeral
import CalcScript.Proofs.Lexing.LongestMatch
import CalcScript.Proofs.Numbers.Rounding

/-!
# Whole numbers in digits

A run of digits is read as a whole double, and what it is read as is written as a run of digits
again, unless it is infinite. The digits may be others, but they are read as the same double.
-/

set_option autoImplicit false

namespace CalcScript

namespace Binary64

/-! ## Decimals that identify a double -/

-- powers with a fixed exponent are never worked out, so what is said of them is said of any

theorem pow_five_pos (places : Nat) : 0 < Nat.pow 5 places := Nat.pow_pos (by decide)

theorem pow_ten_eq (places : Nat) : Nat.pow 10 places = Nat.pow 2 places * Nat.pow 5 places :=
  Nat.mul_pow 2 5 places

theorem pow_ten_sub {least place : Nat} (above : least ≤ place) :
    Nat.pow 10 (place - least) * Nat.pow 10 least = Nat.pow 10 place := by
  have joined := Nat.pow_add 10 (place - least) least
  rw [Nat.sub_add_cancel above] at joined
  exact joined.symm

theorem pow_ten_dvd {places amount : Nat} (whole : Nat.pow 2 places ∣ amount) :
    Nat.pow 10 places ∣ amount * Nat.pow 5 places := by
  rw [pow_ten_eq]
  exact Nat.mul_dvd_mul_right whole _

theorem within_iff_roundsTo {pattern amount fives : Nat} (positive : 0 < fives) :
    (let low := (4 * units pattern - roomBelow pattern) * fives
      let high := (4 * units pattern + roomAbove pattern) * fives
      if significand pattern % 2 = 0 then low ≤ 4 * (amount * fives) && 4 * (amount * fives) ≤ high
      else low < 4 * (amount * fives) && 4 * (amount * fives) < high) = true ↔
      RoundsTo amount pattern := by
  simp only [← Nat.mul_assoc, Nat.mul_le_mul_right_iff positive, Nat.mul_lt_mul_right positive]
  split
  case isTrue even =>
    simp only [Bool.and_eq_true, decide_eq_true_eq]
    constructor
    · rintro ⟨low, high⟩
      exact ⟨by omega, high, fun odd => by omega⟩
    · rintro ⟨low, high, -⟩
      exact ⟨by omega, high⟩
  case isFalse odd =>
    have nonzero : pattern ≠ 0 := by
      rintro rfl
      exact odd rfl
    have room := roomBelow_lt nonzero
    simp only [Bool.and_eq_true, decide_eq_true_eq]
    constructor
    · rintro ⟨low, high⟩
      exact ⟨by omega, by omega, fun _ => ⟨by omega, high⟩⟩
    · rintro ⟨-, -, strict⟩
      obtain ⟨low, high⟩ := strict (by omega)
      exact ⟨by omega, high⟩

/-- A whole number of units, counted in `10 ^ -1074`, identifies the double that it rounds to. -/
theorem identifies_iff {pattern amount : Nat} :
    identifies pattern (amount * Nat.pow 5 1074) = true ↔ RoundsTo amount pattern :=
  within_iff_roundsTo (pow_five_pos _)

theorem identifies_of_nearestMultiple? {pattern step count : Nat}
    (found : nearestMultiple? pattern step = some count) :
    identifies pattern (count * step) = true := by
  unfold nearestMultiple? at found
  dsimp only at found
  split at found
  case isTrue below =>
    split at found
    case isTrue both =>
      cases found
      exact (Bool.and_eq_true_iff.mp both).1
    case isFalse =>
      cases found
      exact below
  case isFalse =>
    split at found
    case isTrue above =>
      cases found
      exact above
    case isFalse => cases found

/-- A double that is a multiple of a step is found among the multiples. -/
theorem exists_nearestMultiple? {pattern step : Nat}
    (multiple : step ∣ units pattern * Nat.pow 5 1074) :
    ∃ count, nearestMultiple? pattern step = some count := by
  have identified : identifies pattern (units pattern * Nat.pow 5 1074 / step * step) = true := by
    rw [Nat.div_mul_cancel multiple]
    exact identifies_iff.mpr roundsTo_units
  unfold nearestMultiple?
  dsimp only
  rw [if_pos identified]
  split
  · exact ⟨_, rfl⟩
  · exact ⟨_, rfl⟩

/-- The shortest decimal of a whole double has no places, if the search starts above the point. -/
theorem exists_shortestFrom {pattern place : Nat} (whole : Nat.pow 2 1074 ∣ units pattern)
    (above : 1074 ≤ place) :
    ∃ number, shortestFrom pattern place = ⟨number, 0⟩ ∧
      identifies pattern (number * Nat.pow 10 1074) = true := by
  induction place with
  | zero => cases above
  | succ place ih =>
      rw [shortestFrom]
      split
      case h_1 count found =>
        have identified := identifies_of_nearestMultiple? found
        refine ⟨count * Nat.pow 10 (place + 1 - 1074), ?_, ?_⟩
        · rw [decimalAt, if_pos above]
        · rwa [Nat.mul_assoc, pow_ten_sub above]
      case h_2 missed =>
        rcases Nat.lt_or_eq_of_le above with later | here
        · exact ih (Nat.le_of_lt_succ later)
        · -- the place of the point itself is never missed
          have multiple : Nat.pow 10 (place + 1) ∣ units pattern * Nat.pow 5 1074 := by
            rw [← here]
            exact pow_ten_dvd whole
          obtain ⟨count, found⟩ := exists_nearestMultiple? multiple
          cases missed.symm.trans found

/-- The search for the shortest decimal of a double that is one or more starts above the point. -/
theorem le_placeAbove {pattern : Nat} (large : unitsPerOne ≤ units pattern) :
    1074 ≤ placeAbove pattern := by
  have most : Nat.pow 2 3567 ≤ unitsPerOne * Nat.pow 5 1074 := by decide +kernel
  have enough : Nat.pow 2 3567 ≤ units pattern * Nat.pow 5 1074 :=
    Nat.le_trans most (Nat.mul_le_mul_right _ large)
  have nonzero : units pattern * Nat.pow 5 1074 ≠ 0 :=
    Nat.ne_of_gt (Nat.lt_of_lt_of_le (Nat.two_pow_pos _) enough)
  have digits := (Nat.le_log2 nonzero).mpr enough
  rw [placeAbove]
  omega

/-- The shortest decimal of a finite whole double other than zero is a whole number, and is rounded
to that double. -/
theorem exists_shortest {pattern : Nat} (finite : pattern < infinityPattern) (nonzero : pattern ≠ 0)
    (whole : unitsPerOne ∣ units pattern) :
    ∃ number, shortest pattern = ⟨number, 0⟩ ∧
      nearestPattern (number * unitsPerOne) 1 = pattern := by
  have large := Nat.le_of_dvd (units_pos nonzero) whole
  obtain ⟨number, short, identified⟩ := exists_shortestFrom whole (le_placeAbove large)
  refine ⟨number, short, ?_⟩
  rw [pow_ten_eq, ← Nat.mul_assoc] at identified
  exact (identifies_iff.mp identified).nearestPattern_eq_pattern finite

end Binary64

namespace Number

open Binary64

/-- What a whole number stands for. -/
def ofWhole (number : Nat) : Float := ofPattern false (decimalPattern number 0)

theorem decimalPattern_eq {number : Nat} (nonzero : number ≠ 0) :
    decimalPattern number 0 = nearestPattern (number * unitsPerOne) 1 := by
  rw [decimalPattern, if_neg nonzero, if_neg (by decide), if_neg (by omega)]
  change nearestPattern (number * 1 * unitsPerOne) 1 = _
  rw [Nat.mul_one]

theorem decimalPattern_le (number : Nat) : decimalPattern number 0 ≤ infinityPattern := by
  unfold decimalPattern
  split
  · exact Nat.zero_le _
  · split
    · exact Nat.le_refl _
    · split
      · exact Nat.zero_le _
      · exact Nat.min_le_right _ _

/-! ## Reading -/

theorem toLower_of_isDigit {character : Char} (digit : isDigit character = true) :
    character.toLower = character := by
  have most := Token.toNat_of_isDigit digit
  rw [Char.toLower, dif_neg]
  rintro ⟨upper, -⟩
  have least : 65 ≤ character.toNat := upper
  omega

theorem readSize?_of_digits {digits : List Char} (nonempty : digits ≠ [])
    (run : ∀ character ∈ digits, isDigit character = true) :
    readSize? digits = some (decimalPattern (ofDigits digits) 0) := by
  have lower : digits.map Char.toLower = digits :=
    (List.map_congr_left fun character among => toLower_of_isDigit (run character among)).trans
      (List.map_id digits)
  have all : digits.takeWhile isDigit = digits := List.takeWhile_eq_self_iff.mpr run
  have exhausted : digits.dropWhile isDigit = [] := List.dropWhile_eq_nil_iff.mpr run
  have noWord (word : String) (foreign : word.toList.all isDigit = false) :
      digits ≠ word.toList := by
    rintro rfl
    cases foreign.symm.trans (List.all_eq_true.mpr run)
  rw [readSize?, lower,
    if_neg (not_or.mpr ⟨noWord "inf" (by decide), noWord "infinity" (by decide)⟩),
    if_neg (noWord "nan" (by decide)), readDecimal?, all, exhausted]
  dsimp only
  rw [if_neg (fun empty => nonempty empty.1), List.append_nil]
  rfl

theorem read?_of_digits {digits : List Char} (nonempty : digits ≠ [])
    (run : ∀ character ∈ digits, isDigit character = true) :
    read? (String.ofList digits) = some (ofWhole (ofDigits digits)) := by
  rw [read?, String.toList_ofList]
  split
  case h_1 => cases run '-' List.mem_cons_self
  case h_2 => cases run '+' List.mem_cons_self
  case h_3 =>
    rw [readSize?_of_digits nonempty run]
    rfl

/-! ## Writing -/

theorem text_infinity : text (ofPattern false infinityPattern) = "inf" := by
  have number := Nat.le_refl infinityPattern
  rw [text, sizePattern_ofPattern number, isNegative_ofPattern number]
  dsimp only
  rw [if_neg (Nat.lt_irrefl _), if_pos rfl, if_neg Bool.false_ne_true]

theorem text_finite {pattern : Nat} (finite : pattern < infinityPattern) :
    text (ofPattern false pattern) =
      if pattern = 0 then "0" else String.ofList (decimalText (shortest pattern)) := by
  rw [text, sizePattern_ofPattern finite.le, isNegative_ofPattern finite.le]
  dsimp only
  rw [if_neg (Nat.lt_asymm finite), if_neg finite.ne, if_neg Bool.false_ne_true]

/-- A finite whole number is written as a run of digits, from which it is read again. -/
theorem exists_digits_of_finite {number : Nat}
    (finite : decimalPattern number 0 < infinityPattern) :
    ∃ digits, digits ≠ [] ∧ (∀ character ∈ digits, isDigit character = true) ∧
      text (ofWhole number) = String.ofList digits ∧
      read? (String.ofList digits) = some (ofWhole number) := by
  by_cases zero : decimalPattern number 0 = 0
  · have digits : ∀ character ∈ ['0'], isDigit character = true := by simp [isDigit]
    refine ⟨['0'], List.cons_ne_nil _ _, digits, ?_, ?_⟩
    · rw [ofWhole, text_finite finite, if_pos zero]
    · rw [read?_of_digits (List.cons_ne_nil _ _) digits, ofWhole, ofWhole, zero]
      rfl
  · have nonzero : number ≠ 0 := by
      rintro rfl
      exact zero rfl
    have rounded := decimalPattern_eq nonzero
    have whole : unitsPerOne ∣ units (decimalPattern number 0) := by
      rw [rounded] at finite ⊢
      exact pow_dvd_units finite
    obtain ⟨short, shortest, same⟩ := exists_shortest finite zero whole
    have nonzeroShort : short ≠ 0 := by
      rintro rfl
      rw [Nat.zero_mul] at same
      exact zero same.symm
    have digits : ∀ character ∈ Nat.toDigits 10 short, isDigit character = true := by
      intro character among
      rw [Token.isDigit_eq]
      exact Nat.isDigit_of_mem_toDigits (by decide) (by decide) among
    refine ⟨Nat.toDigits 10 short, Nat.toDigits_ne_nil, digits, ?_, ?_⟩
    · rw [ofWhole, text_finite finite, if_neg zero, shortest]
      rfl
    · have back : ofDigits (Nat.toDigits 10 short) = short :=
        Nat.ofDigitChars_toDigits (by decide) (by decide)
      rw [read?_of_digits Nat.toDigits_ne_nil digits, back, ofWhole, decimalPattern_eq nonzeroShort,
        same, ofWhole]

end Number

end CalcScript
