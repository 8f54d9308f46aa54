import CalcScript.Number.Numeral

/-!
# Values

A value is a number, a truth value or the value `null` of what has not been given one.
-/

set_option autoImplicit false

namespace CalcScript

inductive Value where
  | number (value : Float)
  | boolean (value : Bool)
  | null
deriving DecidableEq, Repr

namespace Value

def typeName : Value → String
  | number _ => "number"
  | boolean _ => "boolean"
  | null => "null"

def text : Value → String
  | number value => Number.text value
  | boolean true => "true"
  | boolean false => "false"
  | null => "null"

end Value

end CalcScript
