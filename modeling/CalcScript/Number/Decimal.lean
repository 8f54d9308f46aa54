import CalcScript.Number.Binary64

/-!
# Shortest decimals

A decimal identifies a double if it lies among the numbers that round to it. Those reach from
halfway to the double below up to halfway to the double above, and the two ends belong to them if
the significand is even. The shortest decimal is a multiple of the greatest power of ten of which
some multiple identifies the double. Of two such multiples the nearer is taken, and of two equally
near ones the greater.
-/

set_option autoImplicit false

namespace CalcScript

/-- The decimal number `digits / 10 ^ places`. -/
structure Decimal where
  /-- The number without its decimal point. -/
  digits : Nat
  /-- Digits after the decimal point. -/
  places : Nat
deriving DecidableEq, Repr

namespace Binary64

/-- Quarters of a unit by which a number may lie below a double and still round to it. The double
below a power of two is only half as far away as the double above. -/
def roomBelow (pattern : Nat) : Nat :=
  if pattern % Nat.pow 2 fractionBits = 0 ∧ 2 * Nat.pow 2 fractionBits ≤ pattern then
    Nat.pow 2 (scale pattern)
  else 2 * Nat.pow 2 (scale pattern)

/-- Quarters of a unit by which a number may lie above a double and still round to it. -/
def roomAbove (pattern : Nat) : Nat := 2 * Nat.pow 2 (scale pattern)

/-- Tells whether a number of `10 ^ -1074`, the last decimal place that a double can need, lies
among the numbers that round to a double. -/
def identifies (pattern number : Nat) : Bool :=
  let low := (4 * units pattern - roomBelow pattern) * Nat.pow 5 1074
  let high := (4 * units pattern + roomAbove pattern) * Nat.pow 5 1074
  if significand pattern % 2 = 0 then low ≤ 4 * number && 4 * number ≤ high
  else low < 4 * number && 4 * number < high

/-- The multiple of a step, in `10 ^ -1074`, that identifies a double, if its neighbours among the
multiples do. -/
def nearestMultiple? (pattern step : Nat) : Option Nat :=
  let exact := units pattern * Nat.pow 5 1074
  let below := exact / step
  if identifies pattern (below * step) then
    if identifies pattern ((below + 1) * step) && (2 * below + 1) * step ≤ 2 * exact then
      some (below + 1)
    else some below
  else if identifies pattern ((below + 1) * step) then some (below + 1)
  else none

/-- The decimal `count * 10 ^ (place - 1074)`. -/
def decimalAt (count place : Nat) : Decimal :=
  if 1074 ≤ place then ⟨count * Nat.pow 10 (place - 1074), 0⟩ else ⟨count, 1074 - place⟩

/-- The shortest decimal whose last digit stands at `place` or below, where the last of all places
is the place zero. -/
def shortestFrom (pattern : Nat) : Nat → Decimal
  | 0 => decimalAt (units pattern * Nat.pow 5 1074) 0
  | place + 1 =>
    match nearestMultiple? pattern (Nat.pow 10 (place + 1)) with
    | some count => decimalAt count (place + 1)
    | none => shortestFrom pattern place

/-- A place above the first digit of a size, since `2 ^ 100000 ≤ 10 ^ 30103`. -/
def placeAbove (pattern : Nat) : Nat :=
  (Nat.log2 (units pattern * Nat.pow 5 1074) + 1) * 30103 / 100000 + 1

/-- The shortest decimal that identifies a finite double, by its size pattern. -/
def shortest (pattern : Nat) : Decimal := shortestFrom pattern (placeAbove pattern)

end Binary64

end CalcScript
