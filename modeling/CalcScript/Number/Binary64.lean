/-!
# Double-precision numbers as whole numbers

Every finite double is a whole multiple of the least positive one. Counted in that unit its size is
a natural number, so sizes are compared, divided and rounded exactly, without a rational type. The
bit pattern of a size grows with the size: the exponent field counts doublings of the unit and the
fraction field counts steps between them.
-/

set_option autoImplicit false

namespace CalcScript.Binary64

def fractionBits : Nat := 52

/-- Pattern of the sign bit, which is above the pattern of the size. -/
def signPattern : Nat := Nat.pow 2 63

/-- Size pattern of the infinities. Every finite size has a smaller pattern, and the patterns above
it are no numbers. -/
def infinityPattern : Nat := 2047 * Nat.pow 2 fractionBits

/-- Number of units in one: the unit is this often halved. -/
def unitsPerOne : Nat := Nat.pow 2 1074

/-- Pattern of the size of a double, its sign left out. -/
def sizePattern (number : Float) : Nat := number.toBits.toNat % signPattern

def isNegative (number : Float) : Bool := signPattern ≤ number.toBits.toNat

def ofPattern (negative : Bool) (pattern : Nat) : Float :=
  Float.ofBits (UInt64.ofNat (if negative then signPattern + pattern else pattern))

/-- Doublings of the unit between neighbouring doubles at a size pattern. -/
def scale (pattern : Nat) : Nat := pattern / Nat.pow 2 fractionBits - 1

/-- Steps between neighbouring doubles that make up a size. -/
def significand (pattern : Nat) : Nat :=
  if pattern < Nat.pow 2 fractionBits then pattern
  else Nat.pow 2 fractionBits + pattern % Nat.pow 2 fractionBits

def units (pattern : Nat) : Nat := significand pattern * Nat.pow 2 (scale pattern)

/-- The quotient rounded to the nearest whole number, a tie to the even one. -/
def roundedQuotient (numerator denominator : Nat) : Nat :=
  let floor := numerator / denominator
  let double := 2 * (numerator % denominator)
  if double < denominator then floor
  else if denominator < double then floor + 1
  else floor + floor % 2

/-- Size pattern of the double nearest to `numerator / denominator` units, ties to an even
significand. Sizes past the largest double are infinite. -/
def nearestPattern (numerator denominator : Nat) : Nat :=
  let doublings := Nat.log2 (numerator / denominator) - fractionBits
  min (doublings * Nat.pow 2 fractionBits +
      roundedQuotient numerator (denominator * Nat.pow 2 doublings))
    infinityPattern

end CalcScript.Binary64
