import CalcScript.Session

/-!
# Evaluation in steps

A script laid out as a list of steps, which work on a row of operands and on the scopes. A step
either succeeds or fails without any effect, and a run performs one step after another until the
first that fails. Running the steps of a script comes to the same as evaluating its tree.
-/

set_option autoImplicit false

namespace CalcScript

/-- What a script is made of. -/
inductive Step where
  /-- Adds a value to the operands. -/
  | supply (value : Value)
  /-- Adds the value of a name to the operands. -/
  | read (name : String) (span : Span)
  /-- Replaces the two latest operands by the result of an operator. -/
  | operate (operator : Operator) (span : Span)
  /-- Makes sure that the target of an assignment is a name. -/
  | check (target : Expr)
  /-- Assigns the latest operand, which stays, to a name. -/
  | write (name : String) (span : Span)
  /-- Declares a name with the latest operand, which stays, for its value. -/
  | declare (constant : Bool) (name : String) (span : Span)

/-- What steps work on. -/
structure Machine where
  /-- The operands, the latest first. -/
  operands : List Value
  stack : ScopeStack

def Expr.steps : Expr → List Step
  | number value _ => [.supply (.number value)]
  | name symbol span => [.read symbol span]
  | binary operator left right span => left.steps ++ right.steps ++ [.operate operator span]
  | assignment target value span =>
    .check target :: value.steps ++ target.symbol?.toList.map fun name => .write name span

def Action.steps : Action → List Step
  | expression value => value.steps
  | declaration constant name nameSpan (some value) =>
    value.steps ++ [.declare constant name nameSpan]
  | declaration constant name nameSpan none => [.supply .null, .declare constant name nameSpan]

def Statement.steps (statement : Statement) : List Step := statement.action.steps

def Program.steps (program : Program) : List Step := program.statements.flatMap Statement.steps

namespace Step

/-- The part of the script that a step is blamed on. -/
def place : Step → Span
  | supply _ => Span.unplaced
  | read _ span | operate _ span | write _ span | declare _ _ span => span
  | check target => target.span

/-- What a step comes to. A step that lacks an operand, which no script contains, does nothing. -/
def perform : Step → Machine → Except Fault Machine
  | supply value, ⟨operands, stack⟩ => .ok ⟨value :: operands, stack⟩
  | read name _, ⟨operands, stack⟩ =>
    (stack.read ScopeStack.root name).map fun value => ⟨value :: operands, stack⟩
  | operate operator _, ⟨right :: left :: operands, stack⟩ =>
    (operator.apply left right).map fun value => ⟨value :: operands, stack⟩
  | check target, machine =>
    match target.symbol? with
    | some _ => .ok machine
    | none => .error (.invalidTarget target.printed)
  | write name _, ⟨value :: operands, stack⟩ =>
    (stack.assign ScopeStack.root name value).map fun stack => ⟨value :: operands, stack⟩
  | declare constant name _, ⟨value :: operands, stack⟩ =>
    (stack.declare ScopeStack.root name value constant).map fun stack => ⟨value :: operands, stack⟩
  | _, machine => .ok machine

end Step

/-- Performs steps until the first that fails, which ends the run with an error at its place. -/
def performAll : List Step → Machine → Except RuntimeError (List Value) × ScopeStack
  | [], machine => (.ok machine.operands, machine.stack)
  | step :: later, machine =>
    match step.perform machine with
    | .ok next => performAll later next
    | .error fault => (.error ⟨fault, step.place⟩, machine.stack)

/-- Steps that all succeed, and what they lead to. -/
inductive Performs : List Step → Machine → Machine → Prop where
  | nil {machine : Machine} : Performs [] machine machine
  | cons {step : Step} {later : List Step} {machine next last : Machine} :
      step.perform machine = .ok next → Performs later next last →
      Performs (step :: later) machine last

/-- The value and the scopes that a program leaves when it is run in steps. The operands start with
the `null` of a program without statements, and every statement adds its own value. -/
def Program.runSteps (program : Program) (stack : ScopeStack) :
    Except RuntimeError Value × ScopeStack :=
  let (result, after) := performAll program.steps ⟨[.null], stack⟩
  (result.map fun operands => operands.headD .null, after)

/-! ## Runs -/

section Runs

variable {step : Step} {later : List Step} {machine next : Machine}

theorem performAll_of_ok (performed : step.perform machine = .ok next) :
    performAll (step :: later) machine = performAll later next := by
  rw [performAll, performed]

theorem performAll_of_error {fault : Fault} (failed : step.perform machine = .error fault) :
    performAll (step :: later) machine = (.error ⟨fault, step.place⟩, machine.stack) := by
  rw [performAll, failed]

end Runs

theorem performAll_append_of_ok {first second : List Step} {machine : Machine}
    {operands : List Value} {stack : ScopeStack}
    (ran : performAll first machine = (.ok operands, stack)) :
    performAll (first ++ second) machine = performAll second ⟨operands, stack⟩ := by
  induction first generalizing machine with
  | nil =>
      cases ran
      rfl
  | cons step later ih =>
      cases performed : step.perform machine with
      | ok next =>
          rw [List.cons_append, performAll_of_ok performed]
          exact ih ((performAll_of_ok performed).symm.trans ran)
      | error fault => cases (performAll_of_error performed).symm.trans ran

theorem performAll_append_of_error {first second : List Step} {machine : Machine}
    {error : RuntimeError} {stack : ScopeStack}
    (ran : performAll first machine = (.error error, stack)) :
    performAll (first ++ second) machine = (.error error, stack) := by
  induction first generalizing machine with
  | nil => cases ran
  | cons step later ih =>
      cases performed : step.perform machine with
      | ok next =>
          rw [List.cons_append, performAll_of_ok performed]
          exact ih ((performAll_of_ok performed).symm.trans ran)
      | error fault =>
          rw [List.cons_append, performAll_of_error performed]
          exact (performAll_of_error performed).symm.trans ran

theorem performAll_eq_ok_iff {steps : List Step} {machine last : Machine} :
    performAll steps machine = (.ok last.operands, last.stack) ↔ Performs steps machine last := by
  constructor
  · intro ran
    obtain ⟨operands, stack⟩ := last
    induction steps generalizing machine with
    | nil =>
        cases ran
        exact .nil
    | cons step later ih =>
        cases performed : step.perform machine with
        | ok next => exact .cons performed (ih ((performAll_of_ok performed).symm.trans ran))
        | error fault => cases (performAll_of_error performed).symm.trans ran
  · intro performs
    induction performs with
    | nil => rfl
    | cons performed _ ih => exact (performAll_of_ok performed).trans ih

/-- A run fails at the first step that fails. The steps before it have had all their effects and no
others have. -/
theorem performAll_eq_error_iff {steps : List Step} {machine : Machine} {error : RuntimeError}
    {stack : ScopeStack} :
    performAll steps machine = (.error error, stack) ↔
      ∃ done step later reached, steps = done ++ step :: later ∧ Performs done machine reached ∧
        step.perform reached = .error error.fault ∧ step.place = error.span ∧
        reached.stack = stack := by
  constructor
  · intro ran
    induction steps generalizing machine with
    | nil => cases ran
    | cons step later ih =>
        cases performed : step.perform machine with
        | ok next =>
            rw [performAll_of_ok performed] at ran
            obtain ⟨done, failing, rest, reached, rfl, performs, failed⟩ := ih ran
            exact ⟨step :: done, failing, rest, reached, rfl, .cons performed performs, failed⟩
        | error fault =>
            cases (performAll_of_error performed).symm.trans ran
            exact ⟨[], step, later, machine, rfl, .nil, performed, rfl, rfl⟩
  · rintro ⟨done, step, later, reached, rfl, performs, failed, place, rfl⟩
    rw [performAll_append_of_ok (performAll_eq_ok_iff.mpr performs), performAll_of_error failed,
      place]

end CalcScript
