import CalcScript.Proofs.Evaluation.Order
import CalcScript.Proofs.Outcomes

/-!
# The writes of a session

A session changes its scopes by declarations and assignments and by nothing else. What a session
has come to is therefore told by the writes that succeeded in it, in their order, including those
of scripts that failed later on.
-/

set_option autoImplicit false

namespace CalcScript

/-- A change that a script makes to the scopes. -/
inductive Write where
  | declared (name : String) (value : Value) (constant : Bool)
  | assigned (name : String) (value : Value)

/-- The name that a write declares. -/
def Write.declaredName? : Write → Option String
  | declared name _ _ => some name
  | assigned _ _ => none

namespace ScopeStack

def written (stack : ScopeStack) : Write → Except Fault ScopeStack
  | .declared name value constant => stack.declare root name value constant
  | .assigned name value => stack.assign root name value

/-- Makes one write after another, as long as they succeed. -/
def replay (stack : ScopeStack) (writes : List Write) : Except Fault ScopeStack :=
  writes.foldlM written stack

theorem replay_cons (stack : ScopeStack) (write : Write) (later : List Write) :
    stack.replay (write :: later) = (stack.written write).bind fun next => next.replay later := rfl

theorem replay_singleton (stack : ScopeStack) (write : Write) :
    stack.replay [write] = stack.written write := by
  rw [replay_cons]
  cases stack.written write <;> rfl

theorem replay_append_of_ok {stack middle : ScopeStack} {first : List Write}
    (replayed : stack.replay first = .ok middle) (second : List Write) :
    stack.replay (first ++ second) = middle.replay second := by
  rw [replay, List.foldlM_append]
  change (stack.replay first).bind _ = _
  rw [replayed]
  rfl

theorem replay_append_eq_ok_iff {stack last : ScopeStack} {first second : List Write} :
    stack.replay (first ++ second) = .ok last ↔
      ∃ middle, stack.replay first = .ok middle ∧ middle.replay second = .ok last := by
  constructor
  · intro replayed
    rw [replay, List.foldlM_append] at replayed
    exact exists_of_bind_eq_ok replayed
  · rintro ⟨middle, started, ended⟩
    rw [replay_append_of_ok started, ended]

end ScopeStack

/-! ## The writes of steps -/

/-- The write that a step makes when it succeeds. -/
def Step.write? : Step → Machine → Option Write
  | write name _, ⟨value :: _, _⟩ => some (.assigned name value)
  | declare constant name _, ⟨value :: _, _⟩ => some (.declared name value constant)
  | _, _ => none

/-- The writes of the steps that are performed, up to the first that fails. -/
def performedWrites : List Step → Machine → List Write
  | [], _ => []
  | step :: later, machine =>
    match step.perform machine with
    | .ok next => (step.write? machine).toList ++ performedWrites later next
    | .error _ => []

theorem Step.replay_write? {step : Step} {machine next : Machine}
    (performed : step.perform machine = .ok next) :
    machine.stack.replay (step.write? machine).toList = .ok next.stack := by
  obtain ⟨operands, stack⟩ := machine
  cases step with
  | supply value =>
      cases performed
      rfl
  | read name span =>
      obtain ⟨value, -, rfl⟩ := exists_of_map_eq_ok performed
      rfl
  | operate operator span =>
      rcases operands with _ | ⟨right, _ | ⟨left, operands⟩⟩
      case nil | cons.nil =>
        cases performed
        rfl
      case cons.cons =>
        obtain ⟨value, -, rfl⟩ := exists_of_map_eq_ok performed
        rfl
  | check target =>
      rw [Step.perform] at performed
      split at performed <;> cases performed
      rfl
  | write name span =>
      cases operands with
      | nil =>
          cases performed
          rfl
      | cons value operands =>
          obtain ⟨after, assigned, rfl⟩ := exists_of_map_eq_ok performed
          exact (stack.replay_singleton (.assigned name value)).trans assigned
  | declare constant name span =>
      cases operands with
      | nil =>
          cases performed
          rfl
      | cons value operands =>
          obtain ⟨after, declared, rfl⟩ := exists_of_map_eq_ok performed
          exact (stack.replay_singleton (.declared name value constant)).trans declared

theorem replay_performedWrites (steps : List Step) (machine : Machine) :
    machine.stack.replay (performedWrites steps machine) = .ok (performAll steps machine).2 := by
  induction steps generalizing machine with
  | nil => rfl
  | cons step later ih =>
      cases performed : step.perform machine with
      | error fault =>
          rw [performedWrites, performed, performAll_of_error performed]
          rfl
      | ok next =>
          rw [performedWrites, performed, performAll_of_ok performed]
          simp only
          rw [ScopeStack.replay_append_of_ok (Step.replay_write? performed)]
          exact ih next

/-! ## The writes of calls -/

/-- What is asked of a session. -/
inductive Call where
  | script (source : String)
  | program (program : Program)
  | statement (statement : Statement)
  | expression (expression : Expr)

/-- The steps that a call asks for. A script that is no program asks for none. -/
def Call.steps : Call → List Step
  | .script source =>
    match Program.ofSource source with
    | .ok written => written.steps
    | .error _ => []
  | .program given => given.steps
  | .statement given => given.steps
  | .expression given => given.steps

namespace Session

/-- What a call leaves of a session, whether it succeeds or fails. -/
def afterCall (session : Session) : Call → Session
  | .script source => (session.run source).2
  | .program program => (session.runProgram program).2
  | .statement statement => (session.runStatement statement).2
  | .expression expression => (session.runExpression expression).2

/-- What one call after another leaves of a session. -/
def afterCalls (session : Session) (calls : List Call) : Session :=
  calls.foldl afterCall session

/-- The writes that succeed in the course of calls. -/
def writes (session : Session) : List Call → List Write
  | [] => []
  | call :: later =>
    performedWrites call.steps ⟨[.null], session.stack⟩ ++ (session.afterCall call).writes later

theorem step_snd_of_added {session : Session} {evaluation : Evaluation Value} {steps : List Step}
    {operands : List Value}
    (ran : performAll steps ⟨operands, session.stack⟩ =
      added operands (evaluation session.stack)) :
    (session.step evaluation).2.stack = (performAll steps ⟨operands, session.stack⟩).2 := by
  rw [ran, step]
  cases evaluation session.stack <;> rfl

theorem runProgram_snd (session : Session) (program : Program) :
    (session.runProgram program).2.stack =
      (performAll program.steps ⟨[.null], session.stack⟩).2 := by
  rw [session.runProgram_eq_runSteps, Program.runSteps]

theorem afterCall_stack (session : Session) (call : Call) :
    (session.afterCall call).stack = (performAll call.steps ⟨[.null], session.stack⟩).2 := by
  cases call with
  | script source =>
      rw [afterCall, run, Call.steps]
      cases Program.ofSource source with
      | error diagnostic => rfl
      | ok program => exact session.runProgram_snd program
  | program program => exact session.runProgram_snd program
  | statement statement =>
      exact step_snd_of_added (statement.action.performAll_steps [.null] session.stack)
  | expression expression =>
      exact step_snd_of_added (expression.performAll_steps [.null] session.stack)

theorem replay_writes (session : Session) (calls : List Call) :
    session.stack.replay (session.writes calls) = .ok (session.afterCalls calls).stack := by
  induction calls generalizing session with
  | nil => rfl
  | cons call later ih =>
      have called := replay_performedWrites call.steps ⟨[.null], session.stack⟩
      rw [← session.afterCall_stack call] at called
      rw [writes, ScopeStack.replay_append_of_ok called]
      exact ih (session.afterCall call)

theorem writes_append (session : Session) (first second : List Call) :
    session.writes (first ++ second) =
      session.writes first ++ (session.afterCalls first).writes second := by
  induction first generalizing session with
  | nil => rfl
  | cons call later ih =>
      rw [List.cons_append, writes, ih, writes, List.append_assoc]
      rfl

end Session

end CalcScript
