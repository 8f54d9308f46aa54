import CalcScript.Proofs.Evaluation.Order
import CalcScript.Proofs.Layout.Moved

/-!
# Runs of moved programs

A program that is moved does the same as before. Only the place of its error is moved with it.
-/

set_option autoImplicit false

namespace CalcScript

variable {move : Position → Position}

theorem Expr.symbol?_moved (tree : Expr) : (tree.moved move).symbol? = tree.symbol? := by
  cases tree <;> rfl

theorem Expr.printed_moved (tree : Expr) : (tree.moved move).printed = tree.printed := by
  induction tree with
  | number value span => rfl
  | name symbol span => rfl
  | binary operator left right span leftIH rightIH =>
      rw [Expr.moved, Expr.printed, leftIH, rightIH, Expr.printed]
  | assignment target value span targetIH valueIH =>
      rw [Expr.moved, Expr.printed, targetIH, valueIH, Expr.printed]

def Step.moved (move : Position → Position) : Step → Step
  | supply value => .supply value
  | read name span => .read name (span.moved move)
  | operate operator span => .operate operator (span.moved move)
  | check target => .check (target.moved move)
  | write name span => .write name (span.moved move)
  | declare constant name span => .declare constant name (span.moved move)

theorem Expr.steps_moved (tree : Expr) :
    (tree.moved move).steps = tree.steps.map (Step.moved move) := by
  induction tree with
  | number value span => rfl
  | name symbol span => rfl
  | binary operator left right span leftIH rightIH =>
      rw [Expr.moved, Expr.steps, leftIH, rightIH, Expr.steps, List.map_append, List.map_append]
      rfl
  | assignment target value span targetIH valueIH =>
      rw [Expr.moved, Expr.steps, valueIH, target.symbol?_moved, Expr.steps, List.map_append,
        List.map_cons, List.map_map]
      rfl

theorem Action.steps_moved (action : Action) :
    (action.moved move).steps = action.steps.map (Step.moved move) := by
  cases action with
  | expression value => exact value.steps_moved
  | declaration constant name nameSpan value =>
      cases value with
      | none => rfl
      | some value =>
          rw [Action.steps, List.map_append, ← value.steps_moved]
          rfl

theorem Program.steps_moved (program : Program) :
    (program.moved move).steps = program.steps.map (Step.moved move) := by
  rw [Program.steps, Program.steps, List.map_flatMap, Program.moved, List.flatMap_map]
  exact congrArg (program.statements.flatMap ·)
    (funext fun statement => statement.action.steps_moved)

theorem Step.perform_moved (step : Step) (machine : Machine) :
    (step.moved move).perform machine = step.perform machine := by
  obtain ⟨operands, stack⟩ := machine
  cases step with
  | check target =>
      rw [Step.moved, Step.perform, Step.perform, target.symbol?_moved, target.printed_moved]
  | supply value => rfl
  | read name span => rfl
  | operate operator span => rcases operands with _ | ⟨right, _ | ⟨left, operands⟩⟩ <;> rfl
  | write name span => cases operands <;> rfl
  | declare constant name span => cases operands <;> rfl

/-- A step that has no place never fails. -/
theorem Step.place_moved {step : Step} {machine : Machine} {fault : Fault}
    (failed : step.perform machine = .error fault) :
    (step.moved move).place = step.place.moved move := by
  cases step with
  | supply value => cases failed
  | check target => exact target.span_moved
  | read name span => rfl
  | operate operator span => rfl
  | write name span => rfl
  | declare constant name span => rfl

theorem performAll_moved (steps : List Step) (machine : Machine) :
    performAll (steps.map (Step.moved move)) machine =
      ((performAll steps machine).1.mapError (RuntimeError.moved move),
        (performAll steps machine).2) := by
  induction steps generalizing machine with
  | nil => rfl
  | cons step later ih =>
      have same : (step.moved move).perform machine = step.perform machine :=
        step.perform_moved machine
      rw [List.map_cons]
      cases performed : step.perform machine with
      | ok next =>
          rw [performAll_of_ok (same.trans performed), performAll_of_ok performed]
          exact ih next
      | error fault =>
          rw [performAll_of_error (same.trans performed), performAll_of_error performed,
            Step.place_moved performed]
          rfl

theorem Session.runProgram_moved (session : Session) (program : Program) :
    session.runProgram (program.moved move) =
      ((session.runProgram program).1.mapError (RuntimeError.moved move),
        (session.runProgram program).2) := by
  rw [runProgram_eq_runSteps, runProgram_eq_runSteps, Program.runSteps, Program.runSteps,
    program.steps_moved, performAll_moved]
  obtain ⟨result, after⟩ := performAll program.steps ⟨[.null], session.stack⟩
  cases result <;> rfl

end CalcScript
