import CalcScript.Tree.Operator
import CalcScript.Value

/-!
# Faults

What can go wrong while a script runs. The last two faults concern scopes that are not open any
more. No script can bring them about; only a host that keeps the handle of a closed scope can. A
handle is the slot that a scope has among the open ones. That slot is free again once the scope is
closed, so a handle that is kept for longer may also come to name another scope.
-/

set_option autoImplicit false

namespace CalcScript

/-- The handle of a scope. -/
structure ScopeId where
  /-- Number of scopes that were open when this one was opened. -/
  slot : Nat
deriving DecidableEq, Repr

inductive Fault where
  | unresolved (name : String)
  | constantReassignment (name : String)
  | duplicateDeclaration (name : String)
  /-- An assignment to something that is no name, given in its printed form. -/
  | invalidTarget (target : String)
  /-- A division by zero, or by what is no number. -/
  | divisionByZero
  | invalidOperands (operator : Operator) (left right : Value)
  | closedScope (scope : ScopeId)
  | endlessScope (scope : ScopeId)
deriving DecidableEq, Repr

def Fault.message : Fault → String
  | unresolved name => "Cannot resolve `" ++ name ++ "` as it does not exist"
  | constantReassignment name => "Cannot reassign `" ++ name ++ "` as it was declared constant"
  | duplicateDeclaration name =>
    "Cannot declare `" ++ name ++ "` as it is already defined in this scope"
  | invalidTarget target =>
    "Cannot assign to `" ++ target ++ "`, only identifiers are assignable"
  | divisionByZero => "Division by zero"
  | invalidOperands operator left right =>
    "Cannot apply `" ++ operator.symbol ++ "` to " ++ left.typeName ++ " and " ++ right.typeName
  | closedScope scope => "Scope " ++ toString scope.slot ++ " is not open"
  | endlessScope scope => "Scope " ++ toString scope.slot ++ " is its own ancestor"

end CalcScript
