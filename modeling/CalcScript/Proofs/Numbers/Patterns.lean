import Mathlib
import CalcScript.Number.Decimal

/-!
# Patterns of doubles

The pattern of a size tells the steps it is made of and how often they are doubled, and these tell
the pattern. A double that is made of a sign and a pattern has them again.
-/

set_option autoImplicit false

namespace CalcScript.Binary64

open Float.Model Float.Model.UnpackedFloat

/-- Bits that are those of a number are kept. -/
theorem toBits_ofBits {bits : UInt64} (number : bits.toNat % signPattern ≤ infinityPattern) :
    (Float.ofBits bits).toBits = bits := by
  have proper : @isNaNBits Format.binary64 bits.toBitVec = false := by
    apply Bool.eq_false_iff.mpr
    intro nan
    obtain ⟨exponent, mantissa⟩ := of_decide_eq_true nan
    have high := congrArg BitVec.toNat exponent
    apply mantissa
    apply BitVec.eq_of_toNat_eq
    rw [unpackExponent_def] at high
    rw [unpackMantissa_def]
    simp [Format.binary64, Nat.shiftRight_eq_div_pow, signPattern, infinityPattern,
      fractionBits] at *
    omega
  apply UInt64.toBitVec_inj.mp
  have same := @pack_unpack Format.binary64 bits.toBitVec (by decide)
  rwa [proper, if_neg Bool.false_ne_true] at same

section Pattern

variable {pattern : Nat} (number : pattern ≤ infinityPattern) (negative : Bool)

include number

theorem toNat_toBits_ofPattern : (ofPattern negative pattern).toBits.toNat =
    if negative then signPattern + pattern else pattern := by
  have small : (if negative then signPattern + pattern else pattern) < 2 ^ 64 ∧
      (if negative then signPattern + pattern else pattern) % signPattern = pattern := by
    cases negative <;> simp [signPattern, infinityPattern, fractionBits] at * <;> omega
  have bits : (UInt64.ofNat (if negative then signPattern + pattern else pattern)).toNat =
      if negative then signPattern + pattern else pattern :=
    UInt64.toNat_ofNat_of_lt' small.1
  rw [ofPattern, toBits_ofBits, bits]
  rw [bits, small.2]
  exact number

theorem sizePattern_ofPattern : sizePattern (ofPattern negative pattern) = pattern := by
  rw [sizePattern, toNat_toBits_ofPattern number]
  cases negative <;> simp [signPattern, infinityPattern, fractionBits] at * <;> omega

theorem isNegative_ofPattern : isNegative (ofPattern negative pattern) = negative := by
  rw [isNegative, toNat_toBits_ofPattern number]
  cases negative <;> simp [signPattern, infinityPattern, fractionBits] at *
  omega

end Pattern

/-! ## Steps and doublings -/

theorem pow_fractionBits : Nat.pow 2 fractionBits = 4503599627370496 := rfl

theorem pattern_eq (pattern : Nat) :
    pattern = scale pattern * Nat.pow 2 fractionBits + significand pattern := by
  unfold scale significand
  rw [pow_fractionBits]
  split <;> omega

theorem significand_lt (pattern : Nat) :
    significand pattern < 2 * Nat.pow 2 fractionBits := by
  unfold significand
  rw [pow_fractionBits]
  split <;> omega

theorem le_significand {pattern : Nat} (doubled : scale pattern ≠ 0) :
    Nat.pow 2 fractionBits ≤ significand pattern := by
  unfold scale at doubled
  unfold significand
  rw [pow_fractionBits] at *
  split <;> omega

/-- The steps may be as many as lead to the next doubling. -/
theorem units_eq {doublings steps : Nat} (most : steps ≤ 2 * Nat.pow 2 fractionBits)
    (least : doublings = 0 ∨ Nat.pow 2 fractionBits ≤ steps) :
    units (doublings * Nat.pow 2 fractionBits + steps) = steps * Nat.pow 2 doublings := by
  rcases Nat.lt_or_eq_of_le most with fewer | rfl
  · have doubled : scale (doublings * Nat.pow 2 fractionBits + steps) = doublings := by
      unfold scale
      rw [pow_fractionBits] at *
      omega
    have parts := pattern_eq (doublings * Nat.pow 2 fractionBits + steps)
    rw [doubled] at parts
    rw [units, doubled, ← Nat.add_left_cancel parts]
  · have doubled : scale (doublings * Nat.pow 2 fractionBits + 2 * Nat.pow 2 fractionBits) =
        doublings + 1 := by
      unfold scale
      rw [pow_fractionBits]
      omega
    have parts := pattern_eq (doublings * Nat.pow 2 fractionBits + 2 * Nat.pow 2 fractionBits)
    rw [doubled] at parts
    have half : significand (doublings * Nat.pow 2 fractionBits + 2 * Nat.pow 2 fractionBits) =
        Nat.pow 2 fractionBits := by
      rw [pow_fractionBits] at *
      omega
    rw [units, doubled, half]
    change _ * (Nat.pow 2 doublings * 2) = _
    ring

end CalcScript.Binary64
