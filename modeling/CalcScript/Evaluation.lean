import CalcScript.Arithmetic
import CalcScript.Scope.Stack
import CalcScript.Tree.Printed

/-!
# Evaluation

A program runs in the root of a scope stack, statement by statement, and its value is that of its
last statement. Operands are worked out from left to right, and both always are. The target of an
assignment is looked at before its value is worked out and is never worked out itself. The first
fault ends the run; what was done before it stays done.
-/

set_option autoImplicit false

namespace CalcScript

/-- A fault of a running script, and the part of the script that brought it about. -/
structure RuntimeError where
  fault : Fault
  span : Span
deriving DecidableEq, Repr

/-- A step of a running script, which may change the scopes. -/
abbrev Evaluation (α : Type) := EStateM RuntimeError ScopeStack α

namespace Evaluation

def blame {α : Type} (span : Span) : Except Fault α → Evaluation α
  | .ok result => pure result
  | .error fault => throw ⟨fault, span⟩

def readName (name : String) (span : Span) : Evaluation Value := do
  blame span ((← get).read ScopeStack.root name)

def assignName (name : String) (value : Value) (span : Span) : Evaluation Value := do
  set (← blame span ((← get).assign ScopeStack.root name value))
  return value

def declareName (name : String) (value : Value) (constant : Bool) (span : Span) :
    Evaluation Value := do
  set (← blame span ((← get).declare ScopeStack.root name value constant))
  return value

/-! What evaluations come to on a scope stack. -/

theorem bind_of_ok {α β : Type} {first : Evaluation α} {second : α → Evaluation β}
    {stack middle : ScopeStack} {result : α} (done : first stack = .ok result middle) :
    (first >>= second) stack = second result middle := by
  change EStateM.bind first second stack = _
  rw [EStateM.bind, done]

theorem bind_of_error {α β : Type} {first : Evaluation α} {second : α → Evaluation β}
    {stack middle : ScopeStack} {error : RuntimeError}
    (failed : first stack = .error error middle) :
    (first >>= second) stack = .error error middle := by
  change EStateM.bind first second stack = _
  rw [EStateM.bind, failed]

theorem blame_apply {α : Type} (span : Span) (outcome : Except Fault α) (stack : ScopeStack) :
    blame span outcome stack =
      match outcome with
      | .ok result => .ok result stack
      | .error fault => .error ⟨fault, span⟩ stack := by
  cases outcome <;> rfl

theorem readName_apply (name : String) (span : Span) (stack : ScopeStack) :
    readName name span stack = blame span (stack.read ScopeStack.root name) stack := rfl

theorem assignName_apply (name : String) (value : Value) (span : Span) (stack : ScopeStack) :
    assignName name value span stack =
      match stack.assign ScopeStack.root name value with
      | .ok after => .ok value after
      | .error fault => .error ⟨fault, span⟩ stack := by
  change EStateM.bind (blame span (stack.assign ScopeStack.root name value)) _ stack = _
  rw [EStateM.bind, blame_apply]
  cases stack.assign ScopeStack.root name value <;> rfl

theorem declareName_apply (name : String) (value : Value) (constant : Bool) (span : Span)
    (stack : ScopeStack) :
    declareName name value constant span stack =
      match stack.declare ScopeStack.root name value constant with
      | .ok after => .ok value after
      | .error fault => .error ⟨fault, span⟩ stack := by
  change EStateM.bind (blame span (stack.declare ScopeStack.root name value constant)) _ stack = _
  rw [EStateM.bind, blame_apply]
  cases stack.declare ScopeStack.root name value constant <;> rfl

end Evaluation

open Evaluation

/-- The name that an expression consists of. -/
def Expr.symbol? : Expr → Option String
  | name symbol _ => some symbol
  | _ => none

def Expr.evaluate : Expr → Evaluation Value
  | number value _ => return .number value
  | name symbol span => readName symbol span
  | binary operator left right span => do
    let leftValue ← left.evaluate
    let rightValue ← right.evaluate
    blame span (operator.apply leftValue rightValue)
  | assignment target value span =>
    match target.symbol? with
    | some symbol => do
      let assigned ← value.evaluate
      assignName symbol assigned span
    | none => throw ⟨.invalidTarget target.printed, target.span⟩

/-- Does what a statement does. A declaration without a value declares `null`. -/
def Action.evaluate : Action → Evaluation Value
  | expression value => value.evaluate
  | declaration constant name nameSpan (some value) => do
    let declared ← value.evaluate
    declareName name declared constant nameSpan
  | declaration constant name nameSpan none => declareName name .null constant nameSpan

def Statement.evaluate (statement : Statement) : Evaluation Value := statement.action.evaluate

/-- Runs a program. A program without statements has the value `null`. -/
def Program.evaluate (program : Program) : Evaluation Value :=
  program.statements.foldlM (fun _ statement => statement.evaluate) .null

end CalcScript
