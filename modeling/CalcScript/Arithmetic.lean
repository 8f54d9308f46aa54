import CalcScript.Fault
import CalcScript.Number.Binary64

/-!
# Arithmetic

Operators take numbers only. A division refuses a divisor that is zero or no number; every other
operation on numbers has a result, which may be infinite or no number.

The remainder of two doubles is what is left of the dividend after as many whole divisors as fit
into it have been taken away. It is exact, it is smaller than the divisor, and its sign is that of
the dividend, also when it is zero.
-/

set_option autoImplicit false

namespace CalcScript

namespace Binary64

/-- The remainder of a division towards zero. There is none of an infinite dividend or by a zero
divisor; an infinite divisor leaves a finite dividend whole. -/
def remainder (dividend divisor : Float) : Float :=
  let left := sizePattern dividend
  let right := sizePattern divisor
  if infinityPattern ≤ left || infinityPattern < right || right = 0 then 0.0 / 0.0
  else if right = infinityPattern then dividend
  else ofPattern (isNegative dividend) (nearestPattern (units left % units right) 1)

end Binary64

namespace Operator

def ofNumbers : Operator → Float → Float → Except Fault Float
  | add, left, right => .ok (left + right)
  | subtract, left, right => .ok (left - right)
  | multiply, left, right => .ok (left * right)
  | divide, left, right =>
    if right == 0 || right.isNaN then .error .divisionByZero else .ok (left / right)
  | remainder, left, right => .ok (Binary64.remainder left right)

def apply (operator : Operator) : Value → Value → Except Fault Value
  | .number left, .number right => (operator.ofNumbers left right).map .number
  | left, right => .error (.invalidOperands operator left right)

end Operator

end CalcScript
