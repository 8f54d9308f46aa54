import CalcScript.Number.Numeral
import CalcScript.Tree.Basic

/-!
# The printed form of trees

A tree is printed with every compound between parentheses and its operator in front, so that the
printed form shows how the tree is built. The statements of a program are printed a line each.
-/

set_option autoImplicit false

namespace CalcScript

def Expr.printed : Expr → String
  | number value _ => Number.text value
  | name symbol _ => symbol
  | binary operator left right _ =>
    "(" ++ operator.symbol ++ " " ++ left.printed ++ " " ++ right.printed ++ ")"
  | assignment target value _ => "(= " ++ target.printed ++ " " ++ value.printed ++ ")"

def Action.keyword (constant : Bool) : String := if constant then "const" else "let"

def Action.printed : Action → String
  | expression value => value.printed
  | declaration constant name _ (some value) =>
    "(" ++ keyword constant ++ " " ++ name ++ " " ++ value.printed ++ ")"
  | declaration constant name _ none => "(" ++ keyword constant ++ " " ++ name ++ ")"

def Statement.printed (statement : Statement) : String := statement.action.printed

def Program.printed (program : Program) : String :=
  "\n".intercalate (program.statements.map Statement.printed)

end CalcScript
