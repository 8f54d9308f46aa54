import CalcScript.Parser.Expression

/-!
# Expressions one after another

A stream can be asked for one expression after another. Each is read where the one before stopped,
also if that one failed.

So can a recursive descent: the parsers of expressions as one machine with a state of its own, which
holds the current token, the one before and a count of the levels it has gone down. Expressions
within expressions are read by calls, and the calls take place on a stack that has room for so many
of them. The stack knows nothing of the count. If its room runs out there is no outcome at all.
-/

set_option autoImplicit false

namespace CalcScript

namespace Parser

/-- What a stream that is asked for an expression gives, and where it then stands, also after a
failure. -/
def askExpression (stream : TokenStream) : Except SyntaxError Expr × TokenStream :=
  match expression stream with
  | .ok value after => (.ok value, after)
  | .error error after => (.error error, after)

/-- One expression after another, each read where the one before stopped. -/
def askExpressions (stream : TokenStream) : Nat → List (Except SyntaxError Expr)
  | 0 => []
  | times + 1 => (askExpression stream).1 :: askExpressions (askExpression stream).2 times

end Parser

structure Descent where
  current : Token
  /-- The token passed last, or the first one if none was passed. -/
  previous : Token
  rest : List Token
  nesting : Nat
deriving DecidableEq, Repr

namespace Descent

def ofList (tokens : List Token) : Descent :=
  let first := tokens.headD (.endOfFile .unplaced)
  ⟨first, first, tokens.tail, 0⟩

/-- The tokens not passed yet. -/
def unread (descent : Descent) : List Token := descent.current :: descent.rest

/-- The current token is passed. Behind the last token stands an end of file. -/
def bumped (descent : Descent) : Descent where
  current := descent.rest.headD (.endOfFile descent.current.span.stop)
  previous := descent.current
  rest := descent.rest.tail
  nesting := descent.nesting

def entered (descent : Descent) : Descent := { descent with nesting := descent.nesting + 1 }

def left (descent : Descent) : Descent := { descent with nesting := descent.nesting - 1 }

end Descent

/-- A part of the machine. -/
abbrev Descending (α : Type) := ExceptT SyntaxError (StateT Descent Option) α

namespace Descending

open CalcScript.Parser (maxNesting maxHeight operatorOf? tooHigh less_room_of_linked)

def current : Descending Token := return (← get).current

def previous : Descending Token := return (← get).previous

def bump : Descending Unit := modify Descent.bumped

def failAt {α : Type} (token : Token) (fault : SyntaxFault) : Descending α :=
  throw ⟨fault, token.span⟩

def accept (kind : TokenKind) : Descending Bool := do
  if (← current).kind = kind then
    bump
    return true
  else return false

def expect (kind : TokenKind) : Descending Token := do
  let token ← current
  if token.kind = kind then
    bump
    previous
  else failAt token (.expectedToken kind token)

/-- A name, a number, or an expression between parentheses, which `nested` reads. -/
def primary (nested : Descending Expr) : Descending Expr := do
  let token ← current
  match token.kind with
  | .identifier =>
    bump
    return .name (← previous).text token.span
  | .number =>
    match Number.read? token.text with
    | some value =>
      bump
      return .number value token.span
    | none => failAt token (.expectedExpression token)
  | .openParen =>
    bump
    let inner ← nested
    let _ ← expect .closeParen
    return inner
  | _ => failAt token (.expectedExpression token)

def chainFrom (stage : Operator → Bool) (operand : Descending Expr) (left : Expr) :
    Descending Expr := do
  match operatorOf? stage (← current) with
  | none => return left
  | some operator =>
    bump
    let right ← operand
    if fits : (Expr.linked operator left right).height ≤ maxHeight then
      have _shorter := less_room_of_linked fits
      chainFrom stage operand (.linked operator left right)
    else throw (tooHigh (.linked operator left right))
termination_by maxHeight - left.height

def chain (stage : Operator → Bool) (operand : Descending Expr) : Descending Expr := do
  let first ← operand
  chainFrom stage operand first

def additive (nested : Descending Expr) : Descending Expr :=
  chain Operator.isAdditive (chain Operator.isMultiplicative (primary nested))

def assignment (nested : Descending Expr) : Descending Expr := do
  let target ← additive nested
  if ← accept .equals then
    let value ← nested
    if (Expr.assigned target value).height ≤ maxHeight then return .assigned target value
    else throw (tooHigh (.assigned target value))
  else return target

/-- An expression, one level further down, read by a call on a stack with room for so many. However
it ends, the level is left again. -/
def expression : Nat → StateT Descent Option (Except SyntaxError Expr)
  | 0 => fun _ => none
  | room + 1 => do
    let start ← get
    if start.nesting = maxNesting then
      return .error ⟨.nestedTooDeep maxNesting, start.current.span⟩
    else
      modify Descent.entered
      let outcome ← (assignment (expression room)).run
      modify Descent.left
      return outcome

/-- One expression after another, each where the one before stopped, also if that one failed. -/
def expressions (room : Nat) : Nat → StateT Descent Option (List (Except SyntaxError Expr))
  | 0 => return []
  | times + 1 => do
    let first ← expression room
    let later ← expressions room times
    return first :: later

end Descending

end CalcScript
