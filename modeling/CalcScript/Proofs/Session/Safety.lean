import CalcScript.Proofs.Grammar.Blame
import CalcScript.Proofs.Layout.Lines
import CalcScript.Proofs.Lexing.Slices
import CalcScript.Proofs.Session.Permanence
import CalcScript.Proofs.Session.Places

/-!
# Every call has an answer

Texts are cut by byte offset, scopes are looked up by slot, and names are looked up on a way over
parents that could be endless. Whatever a session is asked, no cut is refused, no slot is free and
the way over the parents ends at once, because the root is the only scope. So every failure is one
of the script and none of the session.
-/

set_option autoImplicit false

namespace CalcScript

/-- Tells whether a fault comes from the handle of a scope and not from a script. -/
def Fault.concernsScopes : Fault → Bool
  | closedScope _ | endlessScope _ => true
  | _ => false

theorem Operator.apply_error {operator : Operator} {left right : Value} {fault : Fault}
    (failed : operator.apply left right = .error fault) :
    fault = .divisionByZero ∨ fault = .invalidOperands operator left right := by
  unfold Operator.apply at failed
  split at failed
  case h_1 left right =>
    have refused := error_of_map_eq_error failed
    cases operator with
    | divide =>
        rw [Operator.ofNumbers] at refused
        split at refused <;> cases refused
        exact .inl rfl
    | add | subtract | multiply | remainder => cases refused
  case h_2 =>
    cases failed
    exact .inr rfl

namespace ScopeStack.RootAlone

variable {stack : ScopeStack} {name : String} {value : Value} {fault : Fault}

/-- The way over the parents is over after the root. -/
theorem locate_eq (alone : stack.RootAlone) (name : String) :
    stack.locate root name = stack.locateWithin name 1 root := by
  obtain ⟨scope, orphan, rfl⟩ := alone
  have found : scopeAt ⟨#[scope]⟩ root = .ok scope := rfl
  rw [locate_root orphan, locateWithin, found]
  cases missing : scope.find? name <;> simp [orphan, missing]

theorem locate_error (alone : stack.RootAlone) (failed : stack.locate root name = .error fault) :
    fault = .unresolved name := by
  cases bound : stack.binding? name with
  | none =>
      cases (alone.locate_of_missing bound).symm.trans failed
      rfl
  | some old => cases (alone.locate_of_bound bound).symm.trans failed

theorem read_error (alone : stack.RootAlone) (failed : stack.read root name = .error fault) :
    fault = .unresolved name :=
  alone.locate_error (error_of_map_eq_error failed)

theorem assign_error (alone : stack.RootAlone) (failed : stack.assign root name value = .error fault) :
    fault = .unresolved name ∨ fault = .constantReassignment name := by
  cases bound : stack.binding? name with
  | none =>
      cases (alone.assign_of_missing value bound).symm.trans failed
      exact .inl rfl
  | some old =>
      cases fixed : old.constant with
      | true =>
          cases (alone.assign_of_constant value bound fixed).symm.trans failed
          exact .inr rfl
      | false =>
          obtain ⟨next, assigned⟩ := alone.exists_assign value bound fixed
          cases assigned.symm.trans failed

theorem declare_error (alone : stack.RootAlone) {constant : Bool}
    (failed : stack.declare root name value constant = .error fault) :
    fault = .duplicateDeclaration name := by
  cases bound : stack.binding? name with
  | none =>
      obtain ⟨next, declared⟩ := alone.exists_declare value constant bound
      cases declared.symm.trans failed
  | some old =>
      cases (alone.declare_of_bound value constant bound).symm.trans failed
      rfl

end ScopeStack.RootAlone

/-! ## Steps -/

/-- The faults that a step may bring about. Each is about what the step is about. -/
inductive Step.MayFail : Step → Fault → Prop where
  | read {name : String} {span : Span} : MayFail (.read name span) (.unresolved name)
  | division {operator : Operator} {span : Span} : MayFail (.operate operator span) .divisionByZero
  | operands {operator : Operator} {left right : Value} {span : Span} :
      MayFail (.operate operator span) (.invalidOperands operator left right)
  | target {target : Expr} : MayFail (.check target) (.invalidTarget target.printed)
  | missing {name : String} {span : Span} : MayFail (.write name span) (.unresolved name)
  | constant {name : String} {span : Span} : MayFail (.write name span) (.constantReassignment name)
  | duplicate {isConstant : Bool} {name : String} {span : Span} :
      MayFail (.declare isConstant name span) (.duplicateDeclaration name)

theorem Step.mayFail {step : Step} {machine : Machine} {fault : Fault}
    (alone : machine.stack.RootAlone) (failed : step.perform machine = .error fault) :
    step.MayFail fault := by
  obtain ⟨operands, stack⟩ := machine
  cases step with
  | supply value => cases failed
  | read name span =>
      obtain rfl := alone.read_error (error_of_map_eq_error failed)
      exact .read
  | operate operator span =>
      rcases operands with _ | ⟨right, _ | ⟨left, operands⟩⟩
      case nil | cons.nil => cases failed
      case cons.cons =>
        obtain rfl | rfl := Operator.apply_error (error_of_map_eq_error failed)
        · exact .division
        · exact .operands
  | check target =>
      rw [Step.perform] at failed
      split at failed <;> cases failed
      exact .target
  | write name span =>
      cases operands with
      | nil => cases failed
      | cons value operands =>
          obtain rfl | rfl := alone.assign_error (error_of_map_eq_error failed)
          · exact .missing
          · exact .constant
  | declare constant name span =>
      cases operands with
      | nil => cases failed
      | cons value operands =>
          obtain rfl := alone.declare_error (error_of_map_eq_error failed)
          exact .duplicate

theorem Step.MayFail.not_concernsScopes {step : Step} {fault : Fault} (mayFail : step.MayFail fault) :
    fault.concernsScopes = false := by
  cases mayFail <;> rfl

theorem Performs.rootAlone {steps : List Step} {machine last : Machine}
    (performs : Performs steps machine last) (alone : machine.stack.RootAlone) :
    last.stack.RootAlone := by
  have written := replay_performedWrites steps machine
  rw [performAll_eq_ok_iff.mpr performs] at written
  exact (alone.replay written).1

/-! ## Calls -/

namespace Session

theorem afterCalls_rootAlone (calls : List Call) : (start.afterCalls calls).stack.RootAlone :=
  (ScopeStack.standard_rootAlone.replay (start.replay_writes calls)).1

/-- What is answered to a call. -/
def answer (session : Session) : Call → Except Diagnostic Value
  | .script source => (session.run source).1
  | .program program => (session.runProgram program).1.mapError .runtime
  | .statement statement => (session.runStatement statement).1.mapError .runtime
  | .expression expression => (session.runExpression expression).1.mapError .runtime

variable {session : Session} {error : RuntimeError}

theorem performAll_of_step {evaluation : Evaluation Value} {steps : List Step}
    {operands : List Value}
    (ran : performAll steps ⟨operands, session.stack⟩ =
      added operands (evaluation session.stack))
    (failed : (session.step evaluation).1.mapError Diagnostic.runtime = .error (.runtime error)) :
    ∃ stack, performAll steps ⟨operands, session.stack⟩ = (.error error, stack) := by
  rw [step] at failed
  cases evaluated : evaluation session.stack with
  | ok value stack =>
      rw [evaluated] at failed
      cases failed
  | error other stack =>
      rw [evaluated] at failed ran
      cases failed
      exact ⟨stack, ran⟩

theorem performAll_of_runProgram {program : Program}
    (failed : (session.runProgram program).1.mapError Diagnostic.runtime =
      .error (.runtime error)) :
    ∃ stack, performAll program.steps ⟨[.null], session.stack⟩ = (.error error, stack) := by
  rcases ran : session.runProgram program with ⟨result, after⟩
  rw [ran] at failed
  cases result with
  | ok value => cases failed
  | error other =>
      cases failed
      exact ⟨_, runProgram_eq_error_iff.mp ran⟩

/-- A call that fails while it runs fails at one of its steps. -/
theorem performAll_of_answer {call : Call} (failed : session.answer call = .error (.runtime error)) :
    ∃ stack, performAll call.steps ⟨[.null], session.stack⟩ = (.error error, stack) := by
  cases call with
  | script source =>
      rw [answer] at failed
      rw [Call.steps]
      cases formed : Program.ofSource source with
      | ok program =>
          rw [run_of_ok formed] at failed
          exact performAll_of_runProgram failed
      | error diagnostic =>
          rw [run, formed] at failed
          cases failed
          rw [Program.ofSource] at formed
          split at formed
          case h_1 => cases formed
          case h_2 tokens _ =>
            cases parsed : Program.ofTokens tokens <;> rw [parsed] at formed <;> cases formed
  | program program => exact performAll_of_runProgram failed
  | statement statement =>
      exact performAll_of_step (statement.action.performAll_steps [.null] session.stack) failed
  | expression expression =>
      exact performAll_of_step (expression.performAll_steps [.null] session.stack) failed

/-- A call that fails while it runs is blamed on one of its steps, which may fail so. -/
theorem exists_mayFail (alone : session.stack.RootAlone) {call : Call}
    (failed : session.answer call = .error (.runtime error)) :
    ∃ step ∈ call.steps, step.MayFail error.fault ∧ step.place = error.span := by
  obtain ⟨stack, ran⟩ := performAll_of_answer failed
  obtain ⟨done, step, later, reached, split, performs, refused, place, -⟩ :=
    performAll_eq_error_iff.mp ran
  refine ⟨step, ?_, Step.mayFail (performs.rootAlone alone) refused, place⟩
  rw [split]
  exact List.mem_append_right _ List.mem_cons_self

theorem markedColumns_le {source : String} {span : Span} (within : span.Within source) :
    span.markedColumns (Text.line source span.start.line) ≤ source.length + 1 := by
  have first := within.start.fits.column
  have last := within.stop.fits.column
  have shown := Text.length_line_le source span.start.line
  unfold Span.markedColumns
  split <;> omega

end Session

/-- Whatever has been asked of a session before, everything that it can be asked has an answer. A
lexer that cuts texts by byte offset is never refused one, however often it is asked, and comes to
the last token. A parser reads tokens that are an expression or a program, or stops for a reason
that the rules give. In the course of a call the root stays the only scope, so that a name is found
or missed there at once, and no fault concerns a scope. A diagnostic about a text is marked with
numbers that the length of the text bounds. -/
theorem Session.every_call_answered (source : String) (calls : List Call) :
    (∀ times, Token.slicedAskTimes? (Reader.ofString source) times =
          some (Token.askTimes (Reader.ofString source) times) ∧
        (Token.afterAsks (Reader.ofString source) times).WalksOver source ∧
        (Token.afterAsks (Reader.ofString source) times).position.Fits source) ∧
      (∃ times front last, times ≤ source.length + 1 ∧
        Token.EndsFirst (Token.askTimes (Reader.ofString source) times) front last ∧
        (Token.askTimes (Reader.ofString source) times).mapM id = Token.scan source) ∧
      (∀ stream, match Parser.expression stream with
        | .ok tree after => ∃ tokens, Grammar.Reads stream tokens after ∧
            Grammar.Limited tokens tree
        | .error error after => ∃ tokens, Grammar.Reads stream tokens after ∧
            Grammar.Fails after.current .expression Parser.maxNesting tokens error) ∧
      (∀ tokens, match Program.ofTokens tokens with
        | .ok program => Grammar.DerivesStatements Grammar.Limited
            (tokens.takeWhile fun token => token.kind ≠ .endOfFile) program.statements
        | .error error => ∃ read after, Grammar.Reads (TokenStream.ofList tokens) read after ∧
            Grammar.FailsStatements after.current read error) ∧
      (∀ call : Call, ∀ done later machine, call.steps = done ++ later →
        Performs done ⟨[.null], (start.afterCalls calls).stack⟩ machine →
          machine.stack.RootAlone ∧ ∀ name, machine.stack.locate ScopeStack.root name =
            machine.stack.locateWithin name 1 ScopeStack.root) ∧
      (∀ call error, (start.afterCalls calls).answer call = .error (.runtime error) →
        error.fault.concernsScopes = false) ∧
      (∀ name fault, (start.afterCalls calls).stack.read ScopeStack.root name = .error fault →
        fault = .unresolved name) ∧
      ∀ diagnostic, (start.afterCalls calls).answer (.script source) = .error diagnostic →
        diagnostic.span.start.Fits source ∧
          diagnostic.span.markedColumns (Text.line source diagnostic.span.start.line) ≤
            source.length + 1 := by
  have walks := Reader.WalksOver.ofString source
  have alone := afterCalls_rootAlone calls
  refine ⟨fun times => ?_, ?_, fun stream => ?_, fun tokens => ?_,
    fun call done later machine _ performs => ?_,
    fun call error failed => ?_,
    fun name fault failed => alone.read_error failed, fun diagnostic failed => ?_⟩
  · have walksThen := Token.walksOver_afterAsks walks times
    exact ⟨Token.slicedAskTimes?_eq walks times, walksThen, walksThen.place_isIn.fits⟩
  · have asked := Token.exists_askTimes (Reader.ofString source)
    rwa [Reader.ofString, String.length_toList] at asked
  · cases parsed : Parser.expression stream with
    | ok tree after => exact Grammar.expression_sound parsed
    | error error after => exact Grammar.expression_blames parsed
  · cases formed : Program.ofTokens tokens with
    | ok program =>
        exact Grammar.statements_eq_ok_iff.mp (Program.ofTokens_eq_ok_iff.mp formed)
    | error error => exact Grammar.statements_blames (Grammar.statements_of_ofTokens formed)
  · have aloneThen := performs.rootAlone alone
    exact ⟨aloneThen, aloneThen.locate_eq⟩
  · obtain ⟨step, -, mayFail, -⟩ := exists_mayFail alone failed
    exact mayFail.not_concernsScopes
  · have ran : (start.afterCalls calls).run source =
        (.error diagnostic, ((start.afterCalls calls).run source).2) := Prod.ext failed rfl
    have within := Session.error_within ran
    exact ⟨within.start.fits, markedColumns_le within⟩

end CalcScript
