import CalcScript.Diagnostic.Basic

/-!
# Sessions

A session runs one script after another in the same scopes, so that a script finds the names that
earlier ones declared. A script that fails leaves the session usable, with everything that it
did before it failed.
-/

set_option autoImplicit false

namespace CalcScript

/-- Splits a script into tokens and forms the program that they are written in. -/
def Program.ofSource (source : String) : Except Diagnostic Program :=
  match Token.scan source with
  | .error error => .error (.lexical error)
  | .ok tokens => (Program.ofTokens tokens).mapError .syntactic

/-- What is kept between the scripts of a session. -/
structure Session where
  stack : ScopeStack
deriving DecidableEq, Repr

namespace Session

def start : Session := ⟨ScopeStack.standard⟩

def step {α : Type} (session : Session) (evaluation : Evaluation α) :
    Except RuntimeError α × Session :=
  match evaluation session.stack with
  | .ok result stack => (.ok result, ⟨stack⟩)
  | .error error stack => (.error error, ⟨stack⟩)

theorem step_eq_ok_iff {α : Type} {session after : Session} {evaluation : Evaluation α}
    {result : α} :
    session.step evaluation = (.ok result, after) ↔
      evaluation session.stack = .ok result after.stack := by
  obtain ⟨stack⟩ := after
  rw [step]
  cases evaluation session.stack <;> simp

theorem step_eq_error_iff {α : Type} {session after : Session} {evaluation : Evaluation α}
    {error : RuntimeError} :
    session.step evaluation = (.error error, after) ↔
      evaluation session.stack = .error error after.stack := by
  obtain ⟨stack⟩ := after
  rw [step]
  cases evaluation session.stack <;> simp

def runProgram (session : Session) (program : Program) : Except RuntimeError Value × Session :=
  session.step program.evaluate

def runStatement (session : Session) (statement : Statement) :
    Except RuntimeError Value × Session :=
  session.step statement.evaluate

def runExpression (session : Session) (expression : Expr) : Except RuntimeError Value × Session :=
  session.step expression.evaluate

def run (session : Session) (source : String) : Except Diagnostic Value × Session :=
  match Program.ofSource source with
  | .error diagnostic => (.error diagnostic, session)
  | .ok program =>
    let (result, after) := session.runProgram program
    (result.mapError .runtime, after)

theorem run_of_ok {session : Session} {source : String} {program : Program}
    (formed : Program.ofSource source = .ok program) :
    session.run source =
      ((session.runProgram program).1.mapError .runtime, (session.runProgram program).2) := by
  rw [run, formed]

def get? (session : Session) (name : String) : Option Value :=
  (session.stack.read ScopeStack.root name).toOption

end Session

/-- The value of a script that is run by itself. -/
def evaluate (source : String) : Except Diagnostic Value := (Session.start.run source).1

end CalcScript
