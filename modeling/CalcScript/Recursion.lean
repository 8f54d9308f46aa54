import CalcScript.Evaluation

/-!
# Recursion with little room

Trees are printed and evaluated by functions that call themselves for the parts of a tree. Here
those calls take place on a stack that has room for so many of them, and if its room runs out there
is no outcome at all. The call that finds an assignment to something that is no name prints it from
where it stands.
-/

set_option autoImplicit false

namespace CalcScript

/-- An evaluation whose calls may run out of room. -/
abbrev Recursing (α : Type) := ExceptT RuntimeError (StateT ScopeStack Option) α

namespace Recursing

def exhausted {α : Type} : Recursing α := fun _ => none

/-- What comes of an evaluation that calls nothing. -/
def of {α : Type} (evaluation : Evaluation α) : Recursing α := fun stack =>
  match evaluation stack with
  | .ok result after => some (.ok result, after)
  | .error error after => some (.error error, after)

def ofPrinted (printed : Option String) : Recursing String := fun stack =>
  printed.map fun text => (.ok text, stack)

end Recursing

open Evaluation Recursing

def Expr.printedIn : Nat → Expr → Option String
  | 0, _ => none
  | _ + 1, number value _ => return Number.text value
  | _ + 1, name symbol _ => return symbol
  | room + 1, binary operator left right _ => do
    let leftText ← left.printedIn room
    let rightText ← right.printedIn room
    return "(" ++ operator.symbol ++ " " ++ leftText ++ " " ++ rightText ++ ")"
  | room + 1, assignment target value _ => do
    let targetText ← target.printedIn room
    let valueText ← value.printedIn room
    return "(= " ++ targetText ++ " " ++ valueText ++ ")"

def Expr.evaluateIn : Nat → Expr → Recursing Value
  | 0, _ => exhausted
  | _ + 1, number value _ => return .number value
  | _ + 1, name symbol span => of (readName symbol span)
  | room + 1, binary operator left right span => do
    let leftValue ← left.evaluateIn room
    let rightValue ← right.evaluateIn room
    of (blame span (operator.apply leftValue rightValue))
  | room + 1, assignment target value span =>
    match target.symbol? with
    | some symbol => do
      let assigned ← value.evaluateIn room
      of (assignName symbol assigned span)
    | none => do
      let text ← ofPrinted (target.printedIn room)
      throw ⟨.invalidTarget text, target.span⟩

def Action.printedIn (room : Nat) : Action → Option String
  | expression value => value.printedIn room
  | declaration constant name _ (some value) => do
    let text ← value.printedIn room
    return "(" ++ keyword constant ++ " " ++ name ++ " " ++ text ++ ")"
  | declaration constant name _ none => return "(" ++ keyword constant ++ " " ++ name ++ ")"

def Action.evaluateIn (room : Nat) : Action → Recursing Value
  | expression value => value.evaluateIn room
  | declaration constant name nameSpan (some value) => do
    let declared ← value.evaluateIn room
    of (declareName name declared constant nameSpan)
  | declaration constant name nameSpan none => of (declareName name .null constant nameSpan)

def Program.printedIn (room : Nat) (program : Program) : Option String := do
  let lines ← program.statements.mapM fun statement => statement.action.printedIn room
  return "\n".intercalate lines

def Program.evaluateIn (room : Nat) (program : Program) : Recursing Value :=
  program.statements.foldlM (fun _ statement => statement.action.evaluateIn room) .null

end CalcScript
