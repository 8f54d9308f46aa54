/-!
# Binary operators

There are five operators on two operands, in two stages. The operators of the multiplicative stage
bind more tightly than those of the additive stage.
-/

set_option autoImplicit false

namespace CalcScript

inductive Operator where
  | add
  | subtract
  | multiply
  | divide
  | remainder
deriving DecidableEq, Repr

namespace Operator

def ofSymbol? (symbol : String) : Option Operator :=
  if symbol = "+" then some add
  else if symbol = "-" then some subtract
  else if symbol = "*" then some multiply
  else if symbol = "/" then some divide
  else if symbol = "%" then some remainder
  else none

def symbol : Operator → String
  | add => "+"
  | subtract => "-"
  | multiply => "*"
  | divide => "/"
  | remainder => "%"

def isAdditive : Operator → Bool
  | add | subtract => true
  | multiply | divide | remainder => false

def isMultiplicative (operator : Operator) : Bool := !operator.isAdditive

@[simp]
theorem ofSymbol?_symbol (operator : Operator) : ofSymbol? operator.symbol = some operator := by
  cases operator <;> rfl

end Operator

end CalcScript
