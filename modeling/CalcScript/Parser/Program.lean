import CalcScript.Parser.Expression

/-!
# Parsing programs

A declaration starts with its keyword and ends with a semicolon; only one that is no constant may
leave out its value. Every other statement is an expression, whose semicolon may be left out at the
end of file. A program ends at the first end of file among its tokens.
-/

set_option autoImplicit false

namespace CalcScript.Parser

def lastSpan : Parser Span := do
  return (← get).lastSpan

/-- The value of a declaration and the semicolon after it. A constant without a value is reported
from its keyword to its semicolon. -/
def initializer (constant : Bool) (keyword name : Token) : Parser (Option Expr) := do
  if ← accept .semicolon then
    if constant then
      throw ⟨.uninitializedConstant name.text, keyword.span.join (← lastSpan)⟩
    else return none
  else
    let _ ← expect .equals
    let value ← expression
    let _ ← expect .semicolon
    return some value

def declaration (constant : Bool) : Parser Action := do
  let keyword ← current
  advance
  let name ← expect .identifier
  let value ← initializer constant keyword name
  return .declaration constant name.text name.span value

/-- The semicolon after an expression, which may be left out at the end of file. -/
def terminator : Parser Unit := do
  if ← accept .semicolon then return ()
  else
    let token ← current
    if token.kind = .endOfFile then return ()
    else failAt token (.expectedToken .semicolon token)

def expressionStatement : Parser Action := do
  let value ← expression
  terminator
  return .expression value

def actionAt (first : Token) : Parser Action :=
  match first.kind with
  | .letKeyword => declaration false
  | .constKeyword => declaration true
  | _ => expressionStatement

/-- A statement, which spans from its first token to its last. -/
def statement : Parser Statement := do
  let first ← current
  let action ← actionAt first
  return ⟨action, first.span.join (← lastSpan)⟩

theorem keeps_lastSpan : Keeps lastSpan := by
  intro stream result after parsed
  cases parsed
  exact Nat.le_refl _

theorem keeps_throw {α : Type} (error : SyntaxError) : Keeps (throw error : Parser α) := by
  intro stream result after parsed
  cases parsed

theorem keeps_initializer (constant : Bool) (keyword name : Token) :
    Keeps (initializer constant keyword name) := by
  refine keeps_bind (keeps_accept _) fun accepted => ?_
  split
  · split
    · exact keeps_bind keeps_lastSpan fun _ => keeps_throw _
    · exact keeps_pure _
  · refine keeps_bind (keeps_expect _) fun _ => ?_
    refine keeps_bind consumes_expression.keeps fun value => ?_
    exact keeps_bind (keeps_expect _) fun _ => keeps_pure _

theorem declaration_shortens {constant : Bool} {stream after : TokenStream} {action : Action}
    (proper : stream.current.kind ≠ .endOfFile)
    (parsed : declaration constant stream = .ok action after) :
    after.remaining.length < stream.remaining.length := by
  obtain ⟨keyword, middle, looked, rest⟩ := bind_eq_ok_iff.mp parsed
  cases looked
  refine advance_bind_shortens proper rest ?_
  refine keeps_bind (keeps_expect _) fun name => ?_
  exact keeps_bind (keeps_initializer _ _ _) fun _ => keeps_pure _

theorem keeps_terminator : Keeps terminator := by
  refine keeps_bind (keeps_accept _) fun accepted => ?_
  split
  · exact keeps_pure _
  · refine keeps_bind keeps_current fun token => ?_
    split
    · exact keeps_pure _
    · exact keeps_failAt _ _

theorem consumes_expressionStatement : Consumes expressionStatement :=
  consumes_bind consumes_expression fun _ => keeps_bind keeps_terminator fun _ => keeps_pure _

theorem consumes_statement : Consumes statement := by
  refine consumes_current_bind fun {stream token result after} current parsed => ?_
  obtain ⟨action, middle, read, rest⟩ := bind_eq_ok_iff.mp parsed
  refine Nat.lt_of_le_of_lt (keeps_bind keeps_lastSpan (fun _ => keeps_pure _) rest) ?_
  unfold actionAt at read
  cases kind : token.kind <;> simp only [kind] at read
  case letKeyword => exact declaration_shortens (by simp [current, kind]) read
  case constKeyword => exact declaration_shortens (by simp [current, kind]) read
  all_goals exact consumes_expressionStatement read

/-- The statements up to the first end of file. -/
def statements (stream : TokenStream) : Except SyntaxError (List Statement) :=
  if stream.current.kind = .endOfFile then .ok []
  else
    match parsed : statement stream with
    | .error error _ => .error error
    | .ok first after =>
      have _shorter := consumes_statement parsed
      (statements after).map (first :: ·)
termination_by stream.remaining.length

theorem statements_at_end {stream : TokenStream} (finished : stream.current.kind = .endOfFile) :
    statements stream = .ok [] := by
  rw [statements, if_pos finished]

theorem statements_of_ok {stream after : TokenStream} {first : Statement}
    (unfinished : stream.current.kind ≠ .endOfFile) (parsed : statement stream = .ok first after) :
    statements stream = (statements after).map (first :: ·) := by
  rw [statements, if_neg unfinished]
  split
  case h_1 failed => cases failed.symm.trans parsed
  case h_2 read =>
    cases read.symm.trans parsed
    rfl

theorem statements_of_error {stream after : TokenStream} {error : SyntaxError}
    (unfinished : stream.current.kind ≠ .endOfFile)
    (failed : statement stream = .error error after) : statements stream = .error error := by
  rw [statements, if_neg unfinished]
  split
  case h_1 same =>
    cases same.symm.trans failed
    rfl
  case h_2 read => cases read.symm.trans failed

end CalcScript.Parser

namespace CalcScript

def Program.ofTokens (tokens : List Token) : Except SyntaxError Program :=
  (Parser.statements (TokenStream.ofList tokens)).map Program.mk

theorem Program.ofTokens_eq_ok_iff {tokens : List Token} {program : Program} :
    Program.ofTokens tokens = .ok program ↔
      Parser.statements (TokenStream.ofList tokens) = .ok program.statements := by
  obtain ⟨results⟩ := program
  rw [Program.ofTokens]
  cases Parser.statements (TokenStream.ofList tokens) <;> simp [Except.map]

end CalcScript
