import CalcScript.Proofs.Evaluation.Steps

/-!
# The order of evaluation

The evaluator of trees and the run of a tree's steps agree on the result and on the scopes that they
leave, whether they succeed or fail.
-/

set_option autoImplicit false

namespace CalcScript

open Evaluation

/-- A run that adds the result of an evaluation to the operands. -/
def added (operands : List Value) :
    EStateM.Result RuntimeError ScopeStack Value → Except RuntimeError (List Value) × ScopeStack
  | .ok value stack => (.ok (value :: operands), stack)
  | .error error stack => (.error error, stack)

section Sequence

variable {first later : List Step} {operands last : List Value} {stack : ScopeStack}
  {evaluation : Evaluation Value} {next : Value → Evaluation Value}

/-- Steps for an evaluation and then steps for what follows it. -/
theorem performAll_bind
    (ran : performAll first ⟨operands, stack⟩ = added operands (evaluation stack))
    (follows : ∀ value middle,
      performAll later ⟨value :: operands, middle⟩ = added last (next value middle)) :
    performAll (first ++ later) ⟨operands, stack⟩ = added last ((evaluation >>= next) stack) := by
  cases done : evaluation stack with
  | error error after =>
      rw [done] at ran
      rw [performAll_append_of_error ran, bind_of_error done]
      rfl
  | ok value middle =>
      rw [done] at ran
      rw [performAll_append_of_ok ran, bind_of_ok done]
      exact follows value middle

end Sequence

theorem Expr.performAll_steps (expression : Expr) (operands : List Value) (stack : ScopeStack) :
    performAll expression.steps ⟨operands, stack⟩ = added operands (expression.evaluate stack) := by
  induction expression generalizing operands stack with
  | number value span => rfl
  | name symbol span =>
      rw [Expr.steps, Expr.evaluate, readName_apply, blame_apply, performAll, Step.perform]
      cases stack.read ScopeStack.root symbol <;> rfl
  | binary operator left right span leftIH rightIH =>
      rw [Expr.steps, List.append_assoc, Expr.evaluate]
      refine performAll_bind (leftIH operands stack) fun leftValue middle => ?_
      refine performAll_bind (rightIH (leftValue :: operands) middle) fun rightValue after => ?_
      rw [blame_apply, performAll, Step.perform]
      cases operator.apply leftValue rightValue <;> rfl
  | assignment target value span _ valueIH =>
      rw [Expr.steps, Expr.evaluate, List.cons_append]
      cases symbol : target.symbol? with
      | none =>
          have refused : (Step.check target).perform ⟨operands, stack⟩ =
              .error (.invalidTarget target.printed) := by
            rw [Step.perform, symbol]
          rw [performAll_of_error refused]
          rfl
      | some name =>
          have checked : (Step.check target).perform ⟨operands, stack⟩ =
              .ok ⟨operands, stack⟩ := by
            rw [Step.perform, symbol]
          rw [performAll_of_ok checked]
          refine performAll_bind (valueIH operands stack) fun assigned after => ?_
          rw [assignName_apply, Option.toList_some, List.map_singleton, performAll, Step.perform]
          cases after.assign ScopeStack.root name assigned <;> rfl

theorem Action.performAll_steps (action : Action) (operands : List Value) (stack : ScopeStack) :
    performAll action.steps ⟨operands, stack⟩ = added operands (action.evaluate stack) := by
  cases action with
  | expression value => exact value.performAll_steps operands stack
  | declaration constant name nameSpan value =>
      cases value with
      | none =>
          rw [Action.steps, Action.evaluate, declareName_apply, performAll_of_ok rfl, performAll,
            Step.perform]
          cases stack.declare ScopeStack.root name .null constant <;> rfl
      | some value =>
          rw [Action.steps, Action.evaluate]
          refine performAll_bind (value.performAll_steps operands stack) fun declared after => ?_
          rw [declareName_apply, performAll, Step.perform]
          cases after.declare ScopeStack.root name declared constant <;> rfl

/-- What is left of a run whose latest operand is its result. -/
def latest (outcome : Except RuntimeError (List Value) × ScopeStack) :
    EStateM.Result RuntimeError ScopeStack Value :=
  match outcome with
  | (.ok operands, stack) => .ok (operands.headD .null) stack
  | (.error error, stack) => .error error stack

/-- The statements that are still to come, after one whose value is the latest operand. -/
theorem latest_performAll_statements (statements : List Statement) (value : Value)
    (operands : List Value) (stack : ScopeStack) :
    latest (performAll (statements.flatMap Statement.steps) ⟨value :: operands, stack⟩) =
      statements.foldlM (fun _ statement => statement.evaluate) value stack := by
  induction statements generalizing value operands stack with
  | nil => rfl
  | cons first rest ih =>
      have firstRun : performAll first.steps ⟨value :: operands, stack⟩ =
          added (value :: operands) (first.evaluate stack) :=
        first.action.performAll_steps (value :: operands) stack
      rw [List.flatMap_cons, List.foldlM_cons]
      cases firstDone : first.evaluate stack with
      | error error after =>
          rw [firstDone] at firstRun
          rw [performAll_append_of_error firstRun, bind_of_error firstDone]
          rfl
      | ok result after =>
          rw [firstDone] at firstRun
          rw [performAll_append_of_ok firstRun, bind_of_ok firstDone]
          exact ih result (value :: operands) after

theorem Program.evaluate_eq_latest (program : Program) (stack : ScopeStack) :
    program.evaluate stack = latest (performAll program.steps ⟨[.null], stack⟩) :=
  (latest_performAll_statements program.statements .null [] stack).symm

theorem Session.runProgram_eq_runSteps (session : Session) (program : Program) :
    session.runProgram program =
      ((program.runSteps session.stack).1, ⟨(program.runSteps session.stack).2⟩) := by
  rw [Session.runProgram, Session.step, program.evaluate_eq_latest, Program.runSteps]
  obtain ⟨result, after⟩ := performAll program.steps ⟨[.null], session.stack⟩
  cases result <;> rfl

theorem Session.runProgram_eq_ok_iff {session after : Session} {program : Program} {value : Value} :
    session.runProgram program = (.ok value, after) ↔
      ∃ operands, Performs program.steps ⟨[.null], session.stack⟩ ⟨operands, after.stack⟩ ∧
        operands.headD .null = value := by
  rw [session.runProgram_eq_runSteps, Program.runSteps]
  obtain ⟨stack⟩ := after
  constructor
  · intro ran
    rcases ended : performAll program.steps ⟨[.null], session.stack⟩ with ⟨result, reached⟩
    rw [ended] at ran
    cases result with
    | error error => cases ran
    | ok operands =>
        cases ran
        exact ⟨operands, performAll_eq_ok_iff.mp ended, rfl⟩
  · rintro ⟨operands, performs, rfl⟩
    rw [performAll_eq_ok_iff.mpr performs]
    rfl

theorem Session.runProgram_eq_error_iff {session after : Session} {program : Program}
    {error : RuntimeError} :
    session.runProgram program = (.error error, after) ↔
      performAll program.steps ⟨[.null], session.stack⟩ = (.error error, after.stack) := by
  rw [session.runProgram_eq_runSteps, Program.runSteps]
  obtain ⟨stack⟩ := after
  obtain ⟨result, reached⟩ := performAll program.steps ⟨[.null], session.stack⟩
  cases result <;> simp [Except.map]

theorem Session.runProgram_of_performs {session : Session} {program : Program} {last : Machine}
    (performs : Performs program.steps ⟨[.null], session.stack⟩ last) :
    session.runProgram program = (.ok (last.operands.headD .null), ⟨last.stack⟩) :=
  Session.runProgram_eq_ok_iff.mpr ⟨last.operands, performs, rfl⟩

theorem Session.runProgram_of_failed {session : Session} {program : Program}
    {done later : List Step} {step : Step} {reached : Machine} {fault : Fault}
    (split : program.steps = done ++ step :: later)
    (performs : Performs done ⟨[.null], session.stack⟩ reached)
    (failed : step.perform reached = .error fault) :
    session.runProgram program = (.error ⟨fault, step.place⟩, ⟨reached.stack⟩) := by
  apply Session.runProgram_eq_error_iff.mpr
  exact performAll_eq_error_iff.mpr ⟨done, step, later, reached, split, performs, failed, rfl, rfl⟩

/-! ## Programs in two parts -/

/-- The value that a statement follows is of no account. -/
theorem foldlM_evaluate_of_ne_nil {statements : List Statement} (nonempty : statements ≠ [])
    (value other : Value) :
    statements.foldlM (fun _ statement => statement.evaluate) value =
      statements.foldlM (fun _ statement => statement.evaluate) other := by
  cases statements with
  | nil => exact absurd rfl nonempty
  | cons first rest => rw [List.foldlM_cons, List.foldlM_cons]

theorem Session.runProgram_append_of_error {session after : Session} {error : RuntimeError}
    {first : List Statement} (failed : session.runProgram ⟨first⟩ = (.error error, after))
    (second : List Statement) : session.runProgram ⟨first ++ second⟩ = (.error error, after) := by
  apply Session.step_eq_error_iff.mpr
  rw [Program.evaluate, List.foldlM_append]
  exact bind_of_error (Session.step_eq_error_iff.mp failed)

theorem Session.runProgram_append_of_ok {session middle : Session} {value : Value}
    {first : List Statement} (done : session.runProgram ⟨first⟩ = (.ok value, middle))
    {second : List Statement} (nonempty : second ≠ []) :
    session.runProgram ⟨first ++ second⟩ = middle.runProgram ⟨second⟩ := by
  have firstDone := Session.step_eq_ok_iff.mp done
  have whole : Program.evaluate ⟨first ++ second⟩ session.stack =
      Program.evaluate ⟨second⟩ middle.stack := by
    rw [Program.evaluate, List.foldlM_append]
    refine (bind_of_ok firstDone).trans ?_
    rw [foldlM_evaluate_of_ne_nil nonempty value .null, Program.evaluate]
  rw [Session.runProgram, Session.runProgram, Session.step, Session.step, whole]

theorem Session.runProgram_singleton (session : Session) (statement : Statement) :
    session.runProgram ⟨[statement]⟩ = session.runStatement statement := by
  rw [Session.runProgram, Program.evaluate, List.foldlM_cons]
  exact congrArg session.step (bind_pure _)

/-- The value of a program is that of its last statement. -/
theorem Session.runProgram_last {session after : Session} {initial : List Statement}
    {last : Statement} {value : Value}
    (ran : session.runProgram ⟨initial ++ [last]⟩ = (.ok value, after)) :
    ∃ before middle, session.runProgram ⟨initial⟩ = (.ok before, middle) ∧
      middle.runStatement last = (.ok value, after) := by
  rcases started : session.runProgram ⟨initial⟩ with ⟨result, middle⟩
  cases result with
  | error error => cases (runProgram_append_of_error started [last]).symm.trans ran
  | ok before =>
      refine ⟨before, middle, rfl, ?_⟩
      rw [← runProgram_singleton, ← runProgram_append_of_ok started (List.cons_ne_nil last [])]
      exact ran

/-- A program does its steps in order up to the first that fails. On success its value is that of
its last statement. On failure the effects are those of the steps before the failing one, and the
error stands at that step's own place. -/
theorem Session.runProgram_follows_steps (session : Session) (program : Program) :
    session.runProgram program =
        ((program.runSteps session.stack).1, ⟨(program.runSteps session.stack).2⟩) ∧
      (∀ error after, session.runProgram program = (.error error, after) ↔
        ∃ done step later reached, program.steps = done ++ step :: later ∧
          Performs done ⟨[.null], session.stack⟩ reached ∧
          step.perform reached = .error error.fault ∧ step.place = error.span ∧
          reached.stack = after.stack) ∧
      (∀ value after, session.runProgram program = (.ok value, after) ↔
        ∃ operands, Performs program.steps ⟨[.null], session.stack⟩ ⟨operands, after.stack⟩ ∧
          operands.headD .null = value) ∧
      (program.statements = [] → session.runProgram program = (.ok .null, session)) ∧
      ∀ initial last value after, program.statements = initial ++ [last] →
        session.runProgram program = (.ok value, after) →
          ∃ before middle, session.runProgram ⟨initial⟩ = (.ok before, middle) ∧
            middle.runStatement last = (.ok value, after) := by
  refine ⟨session.runProgram_eq_runSteps program, fun error after => ?_,
    fun value after => runProgram_eq_ok_iff, fun empty => ?_,
    fun initial last value after split => ?_⟩
  · rw [runProgram_eq_error_iff, performAll_eq_error_iff]
  · obtain ⟨statements⟩ := program
    cases empty
    rfl
  · obtain ⟨statements⟩ := program
    cases split
    exact runProgram_last

end CalcScript
