import CalcScript.Parser.TokenStream

/-!
# Parsers

A parser reads tokens from a stream and gives either a result or a syntax error. In both cases the
stream stays where the parser stopped. No parser reads past an end of file.
-/

set_option autoImplicit false

namespace CalcScript

inductive SyntaxFault where
  | expectedToken (expected : TokenKind) (found : Token)
  | expectedExpression (found : Token)
  | uninitializedConstant (name : String)
  | nestedTooDeep (limit : Nat)
deriving DecidableEq, Repr

structure SyntaxError where
  fault : SyntaxFault
  span : Span
deriving DecidableEq, Repr

abbrev Parser (α : Type) := EStateM SyntaxError TokenStream α

namespace Parser

/-- The token to be read next, which stays in the stream. -/
def current : Parser Token := do
  return (← get).current

def advance : Parser Unit :=
  modify TokenStream.advanced

def failAt {α : Type} (token : Token) (fault : SyntaxFault) : Parser α :=
  throw ⟨fault, token.span⟩

/-- Reads the current token if it is of a kind, and tells whether it was. -/
def accept (kind : TokenKind) : Parser Bool := do
  if (← current).kind = kind then
    advance
    return true
  else return false

/-- Reads the current token, which has to be of a kind. -/
def expect (kind : TokenKind) : Parser Token := do
  let token ← current
  if token.kind = kind then
    advance
    return token
  else failAt token (.expectedToken kind token)

/-! What the small parsers come to when another follows. -/

@[simp]
theorem current_bind_apply {α : Type} (next : Token → Parser α) (stream : TokenStream) :
    (current >>= next) stream = next stream.current stream := rfl

@[simp]
theorem advance_bind_apply {α : Type} (next : Unit → Parser α) (stream : TokenStream) :
    (advance >>= next) stream = next () stream.advanced := rfl

@[simp]
theorem accept_bind_apply {α : Type} (kind : TokenKind) (next : Bool → Parser α)
    (stream : TokenStream) :
    (accept kind >>= next) stream =
      if stream.current.kind = kind then next true stream.advanced else next false stream := by
  change EStateM.bind (accept kind) next stream = _
  unfold accept EStateM.bind
  rw [current_bind_apply]
  by_cases same : stream.current.kind = kind
  · rw [if_pos same, if_pos same]
    rfl
  · rw [if_neg same, if_neg same]
    rfl

@[simp]
theorem expect_bind_apply {α : Type} (kind : TokenKind) (next : Token → Parser α)
    (stream : TokenStream) :
    (expect kind >>= next) stream =
      if stream.current.kind = kind then next stream.current stream.advanced
      else .error ⟨.expectedToken kind stream.current, stream.current.span⟩ stream := by
  change EStateM.bind (expect kind) next stream = _
  unfold expect EStateM.bind
  rw [current_bind_apply]
  by_cases same : stream.current.kind = kind
  · rw [if_pos same, if_pos same]
    rfl
  · rw [if_neg same, if_neg same]
    rfl

/-- A parser that leaves no more tokens than it found. -/
def Keeps {α : Type} (parser : Parser α) : Prop :=
  ∀ {stream : TokenStream} {result : α} {after : TokenStream},
    parser stream = .ok result after → after.remaining.length ≤ stream.remaining.length

/-- A parser that leaves fewer tokens than it found. -/
def Consumes {α : Type} (parser : Parser α) : Prop :=
  ∀ {stream : TokenStream} {result : α} {after : TokenStream},
    parser stream = .ok result after → after.remaining.length < stream.remaining.length

theorem Consumes.keeps {α : Type} {parser : Parser α} (consumes : Consumes parser) :
    Keeps parser :=
  fun parsed => Nat.le_of_lt (consumes parsed)

theorem bind_of_ok {α β : Type} {first : Parser α} {second : α → Parser β}
    {stream middle : TokenStream} {value : α} (read : first stream = .ok value middle) :
    (first >>= second) stream = second value middle := by
  change EStateM.bind first second stream = _
  rw [EStateM.bind, read]

/-- A sequence of two parsers succeeds if the second succeeds where the first stopped. -/
theorem bind_eq_ok_iff {α β : Type} {first : Parser α} {second : α → Parser β}
    {stream after : TokenStream} {result : β} :
    (first >>= second) stream = .ok result after ↔
      ∃ value middle, first stream = .ok value middle ∧ second value middle = .ok result after := by
  change EStateM.bind first second stream = _ ↔ _
  unfold EStateM.bind
  cases first stream with
  | error => simp
  | ok value middle =>
    constructor
    · exact fun rest => ⟨value, middle, rfl, rest⟩
    · rintro ⟨_, _, read, rest⟩
      cases read
      exact rest

/-- A sequence of two parsers fails with the first, or with the second where the first stopped. -/
theorem bind_eq_error_iff {α β : Type} {first : Parser α} {second : α → Parser β}
    {stream after : TokenStream} {error : SyntaxError} :
    (first >>= second) stream = .error error after ↔
      first stream = .error error after ∨
        ∃ value middle, first stream = .ok value middle ∧
          second value middle = .error error after := by
  change EStateM.bind first second stream = _ ↔ _
  unfold EStateM.bind
  cases first stream with
  | error => simp
  | ok value middle =>
    constructor
    · exact fun failed => .inr ⟨value, middle, rfl, failed⟩
    · rintro (failed | ⟨_, _, read, failed⟩)
      · cases failed
      · cases read
        exact failed

theorem keeps_pure {α : Type} (value : α) : Keeps (pure value : Parser α) := by
  intro stream result after parsed
  cases parsed
  exact Nat.le_refl _

theorem keeps_failAt {α : Type} (token : Token) (fault : SyntaxFault) :
    Keeps (failAt token fault : Parser α) := by
  intro stream result after parsed
  cases parsed

theorem consumes_failAt {α : Type} (token : Token) (fault : SyntaxFault) :
    Consumes (failAt token fault : Parser α) := by
  intro stream result after parsed
  cases parsed

theorem keeps_bind {α β : Type} {first : Parser α} {second : α → Parser β} (left : Keeps first)
    (right : ∀ value, Keeps (second value)) : Keeps (first >>= second) := by
  intro stream result after parsed
  obtain ⟨value, middle, read, rest⟩ := bind_eq_ok_iff.mp parsed
  exact Nat.le_trans (right value rest) (left read)

theorem consumes_bind {α β : Type} {first : Parser α} {second : α → Parser β}
    (left : Consumes first) (right : ∀ value, Keeps (second value)) :
    Consumes (first >>= second) := by
  intro stream result after parsed
  obtain ⟨value, middle, read, rest⟩ := bind_eq_ok_iff.mp parsed
  exact Nat.lt_of_le_of_lt (right value rest) (left read)

theorem keeps_current : Keeps current := by
  intro stream result after parsed
  cases parsed
  exact Nat.le_refl _

theorem keeps_advance : Keeps advance := by
  intro stream result after parsed
  cases parsed
  simp [TokenStream.advanced]

theorem keeps_accept (kind : TokenKind) : Keeps (accept kind) := by
  refine keeps_bind keeps_current fun token => ?_
  split
  · exact keeps_bind keeps_advance fun _ => keeps_pure _
  · exact keeps_pure _

/-- A parser consumes if what it does after a look at the current token consumes. -/
theorem consumes_current_bind {α : Type} {next : Token → Parser α}
    (shortens : ∀ {stream : TokenStream} {token : Token} {result : α} {after : TokenStream},
      stream.current = token → next token stream = .ok result after →
        after.remaining.length < stream.remaining.length) :
    Consumes (current >>= next) := by
  intro stream result after parsed
  obtain ⟨token, middle, looked, rest⟩ := bind_eq_ok_iff.mp parsed
  cases looked
  exact shortens rfl rest

/-- Reading a current token that is not an end of file leaves fewer tokens. -/
theorem advance_bind_shortens {α : Type} {next : Unit → Parser α} {stream after : TokenStream}
    {result : α} (proper : stream.current.kind ≠ .endOfFile)
    (parsed : (advance >>= next) stream = .ok result after) (keeps : Keeps (next ())) :
    after.remaining.length < stream.remaining.length := by
  obtain ⟨_, middle, moved, rest⟩ := bind_eq_ok_iff.mp parsed
  cases moved
  exact Nat.lt_of_le_of_lt (keeps rest) (TokenStream.advanced_shortens proper)

theorem keeps_expect (kind : TokenKind) : Keeps (expect kind) := by
  refine keeps_bind keeps_current fun token => ?_
  split
  · exact keeps_bind keeps_advance fun _ => keeps_pure _
  · exact keeps_failAt _ _

end Parser

end CalcScript
