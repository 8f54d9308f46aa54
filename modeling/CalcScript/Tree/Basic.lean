import CalcScript.Text.Span
import CalcScript.Tree.Operator

/-!
# Syntax trees

A program is a list of statements, each an expression or a declaration of a name. Parentheses leave
no node of their own. The target of an assignment is any expression; whether it can be assigned to
is decided when the program runs.
-/

set_option autoImplicit false

namespace CalcScript

/-- An expression together with the span of each of its nodes. -/
inductive Expr where
  | number (value : Float) (span : Span)
  | name (symbol : String) (span : Span)
  | binary (operator : Operator) (left right : Expr) (span : Span)
  | assignment (target value : Expr) (span : Span)
deriving DecidableEq, Repr

namespace Expr

def span : Expr → Span
  | number _ span | name _ span | binary _ _ _ span | assignment _ _ span => span

/-- Number of nodes on the longest path from an expression down to a leaf. -/
def height : Expr → Nat
  | number _ _ | name _ _ => 1
  | binary _ left right _ => 1 + max left.height right.height
  | assignment target value _ => 1 + max target.height value.height

/-- An operator between two operands, with the span of both together. -/
def linked (operator : Operator) (left right : Expr) : Expr :=
  binary operator left right (left.span.join right.span)

/-- An assignment of a value to a target, with the span of both together. -/
def assigned (target value : Expr) : Expr :=
  assignment target value (target.span.join value.span)

@[simp]
theorem height_linked (operator : Operator) (left right : Expr) :
    (linked operator left right).height = 1 + max left.height right.height := rfl

@[simp]
theorem height_assigned (target value : Expr) :
    (assigned target value).height = 1 + max target.height value.height := rfl

end Expr

inductive Action where
  | expression (value : Expr)
  | declaration (constant : Bool) (name : String) (nameSpan : Span) (value : Option Expr)
deriving DecidableEq, Repr

structure Statement where
  action : Action
  span : Span
deriving DecidableEq, Repr

structure Program where
  statements : List Statement
deriving DecidableEq, Repr

end CalcScript
