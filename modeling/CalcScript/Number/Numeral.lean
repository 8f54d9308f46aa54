import CalcScript.Number.Decimal

/-!
# Numerals

A number is written in full, without an exponent: a minus sign if its sign bit is set, the digits
of its shortest decimal, and a decimal point only where digits follow it. Infinities are written
`inf`; what is no number is written `NaN` and has no sign.

A numeral is read in more forms than it is written in: an optional sign, digits with at most one
decimal point among them, and an optional power of ten. The value is the double nearest to the
decimal. The words `inf`, `infinity` and `nan` are read in any mixture of cases.
-/

set_option autoImplicit false

namespace CalcScript.Number

/-- The digits of a decimal with its decimal point, if it has places after the point. -/
def decimalText (decimal : Decimal) : List Char :=
  let digits := Nat.toDigits 10 decimal.digits
  if decimal.places = 0 then digits
  else
    let padded := List.replicate (decimal.places + 1 - digits.length) '0' ++ digits
    let whole := padded.length - decimal.places
    padded.take whole ++ '.' :: padded.drop whole

def text (number : Float) : String :=
  let pattern := Binary64.sizePattern number
  if Binary64.infinityPattern < pattern then "NaN"
  else
    let size :=
      if pattern = Binary64.infinityPattern then "inf"
      else if pattern = 0 then "0"
      else String.ofList (decimalText (Binary64.shortest pattern))
    if Binary64.isNegative number then "-" ++ size else size

def isDigit (character : Char) : Bool := '0' ≤ character && character ≤ '9'

/-- The number that a run of digits stands for. -/
def ofDigits (digits : List Char) : Nat := Nat.ofDigitChars 10 digits 0

/-- Size pattern of the double nearest to `digits * 10 ^ exponent`. A power of ten that leaves
every double behind is decided without working it out. -/
def decimalPattern (digits : Nat) (exponent : Int) : Nat :=
  if digits = 0 then 0
  else if 400 < exponent then Binary64.infinityPattern
  else if 3 * exponent + Nat.log2 digits + 1 < -1076 then 0
  else
    Binary64.nearestPattern (digits * Nat.pow 10 exponent.toNat * Binary64.unitsPerOne)
      (Nat.pow 10 (-exponent).toNat)

/-- The number that a run of characters stands for, if it is made of digits and not empty. -/
def readDigits? (characters : List Char) : Option Nat :=
  if characters ≠ [] ∧ characters.all isDigit then some (ofDigits characters) else none

/-- A whole number with an optional sign before its digits. -/
def readWhole? : List Char → Option Int
  | '-' :: digits => (readDigits? digits).map fun size => -(size : Int)
  | '+' :: digits => (readDigits? digits).map fun size => (size : Int)
  | digits => (readDigits? digits).map fun size => (size : Int)

/-- The power of ten at the end of a numeral, which is zero if nothing is left of it. -/
def readExponent? : List Char → Option Int
  | [] => some 0
  | 'e' :: rest => readWhole? rest
  | 'E' :: rest => readWhole? rest
  | _ => none

/-- Size pattern of a numeral without a sign that is written with digits. -/
def readDecimal? (characters : List Char) : Option Nat :=
  let whole := characters.takeWhile isDigit
  let rest := characters.dropWhile isDigit
  let fraction := match rest with
    | '.' :: tail => tail.takeWhile isDigit
    | _ => []
  let tail := match rest with
    | '.' :: tail => tail.dropWhile isDigit
    | _ => rest
  if whole = [] ∧ fraction = [] then none
  else
    (readExponent? tail).map fun exponent =>
      decimalPattern (ofDigits (whole ++ fraction)) (exponent - fraction.length)

/-- Size pattern of a numeral without a sign. -/
def readSize? (characters : List Char) : Option Nat :=
  let lower := characters.map Char.toLower
  if lower = "inf".toList ∨ lower = "infinity".toList then some Binary64.infinityPattern
  else if lower = "nan".toList then some (Binary64.infinityPattern + Nat.pow 2 51)
  else readDecimal? characters

/-- The number that a numeral stands for, if the whole text is one. -/
def read? (numeral : String) : Option Float :=
  match numeral.toList with
  | '-' :: size => (readSize? size).map (Binary64.ofPattern true)
  | '+' :: size => (readSize? size).map (Binary64.ofPattern false)
  | size => (readSize? size).map (Binary64.ofPattern false)

end CalcScript.Number
