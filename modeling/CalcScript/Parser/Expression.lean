import CalcScript.Number.Numeral
import CalcScript.Parser.Basic
import CalcScript.Tree.Basic

/-!
# Parsing expressions

An expression is an assignment, or else a chain of the additive stage. The operands of that stage
are chains of the multiplicative stage, whose operands are names, numbers and expressions between
parentheses. Chains lean to the left and assignments to the right.

Two limits keep trees shallow. Parentheses and right-hand sides of assignments are entered at most
`maxNesting` deep, and no node is higher than `maxHeight`.
-/

set_option autoImplicit false

namespace CalcScript.Parser

/-- Deepest nesting of parentheses and right-hand sides of assignments. -/
def maxNesting : Nat := 128

/-- Greatest height of an expression. -/
def maxHeight : Nat := 1024

/-- The operator that a token stands for, if it is one of a stage. -/
def operatorOf? (stage : Operator → Bool) (token : Token) : Option Operator :=
  if token.kind = .operator then (Operator.ofSymbol? token.text).filter stage else none

def tooHigh (node : Expr) : SyntaxError := ⟨.nestedTooDeep maxHeight, node.span⟩

/-- A name, a number, or an expression between parentheses, which `nested` reads. -/
def primary (nested : Parser Expr) : Parser Expr := do
  let token ← current
  match token.kind with
  | .identifier =>
    advance
    return .name token.text token.span
  | .number =>
    match Number.read? token.text with
    | some value =>
      advance
      return .number value token.span
    | none => failAt token (.expectedExpression token)
  | .openParen =>
    advance
    let inner ← nested
    let _ ← expect .closeParen
    return inner
  | _ => failAt token (.expectedExpression token)

/-- A link that is not too high leaves less room for the links to come. -/
theorem less_room_of_linked {operator : Operator} {left right : Expr}
    (fits : (Expr.linked operator left right).height ≤ maxHeight) :
    maxHeight - (Expr.linked operator left right).height < maxHeight - left.height := by
  rw [Expr.height_linked] at fits ⊢
  omega

/-- Extends a chain of operators of one stage to the right for as long as it goes on. Every link
makes the chain higher, so the limit on heights ends it. -/
def chainFrom (stage : Operator → Bool) (operand : Parser Expr) (left : Expr) : Parser Expr := do
  match operatorOf? stage (← current) with
  | none => return left
  | some operator =>
    advance
    let right ← operand
    if fits : (Expr.linked operator left right).height ≤ maxHeight then
      have _shorter := less_room_of_linked fits
      chainFrom stage operand (.linked operator left right)
    else throw (tooHigh (.linked operator left right))
termination_by maxHeight - left.height

def chain (stage : Operator → Bool) (operand : Parser Expr) : Parser Expr := do
  let first ← operand
  chainFrom stage operand first

def multiplicative (nested : Parser Expr) : Parser Expr :=
  chain Operator.isMultiplicative (primary nested)

def additive (nested : Parser Expr) : Parser Expr :=
  chain Operator.isAdditive (multiplicative nested)

/-- The rest of an expression after what may be the target of an assignment. -/
def assignmentFrom (nested : Parser Expr) (target : Expr) : Parser Expr := do
  if ← accept .equals then
    let value ← nested
    if (Expr.assigned target value).height ≤ maxHeight then return .assigned target value
    else throw (tooHigh (.assigned target value))
  else return target

/-- An expression whose nested expressions `nested` reads. -/
def expressionOver (nested : Parser Expr) : Parser Expr := do
  let target ← additive nested
  assignmentFrom nested target

/-- An expression that may be nested the given number of levels deep, itself included. -/
def expressionWithin : Nat → Parser Expr
  | 0 => do failAt (← current) (.nestedTooDeep maxNesting)
  | levels + 1 => expressionOver (expressionWithin levels)

def expression : Parser Expr := expressionWithin maxNesting

/-! Every expression takes up at least one token. -/

theorem keeps_throw_tooHigh (node : Expr) : Keeps (throw (tooHigh node) : Parser Expr) := by
  intro stream result after parsed
  cases parsed

theorem consumes_primary {nested : Parser Expr} (keeps : Keeps nested) :
    Consumes (primary nested) := by
  refine consumes_current_bind fun {stream token result after} current parsed => ?_
  cases kind : token.kind <;> simp only [kind] at parsed
  case identifier =>
    exact advance_bind_shortens (by simp [current, kind]) parsed (keeps_pure _)
  case number =>
    cases value : Number.read? token.text <;> simp only [value] at parsed
    case none => exact consumes_failAt _ _ parsed
    case some => exact advance_bind_shortens (by simp [current, kind]) parsed (keeps_pure _)
  case openParen =>
    refine advance_bind_shortens (by simp [current, kind]) parsed ?_
    exact keeps_bind keeps fun _ => keeps_bind (keeps_expect _) fun _ => keeps_pure _
  all_goals exact consumes_failAt _ _ parsed

theorem keeps_chainFrom {stage : Operator → Bool} {operand : Parser Expr}
    (keeps : Keeps operand) (left : Expr) : Keeps (chainFrom stage operand left) := by
  induction measure : maxHeight - left.height using Nat.strongRecOn generalizing left with
  | ind room ih =>
    rw [chainFrom]
    refine keeps_bind keeps_current fun token => ?_
    split
    · exact keeps_pure _
    · refine keeps_bind keeps_advance fun _ => keeps_bind keeps fun right => ?_
      split
      case isTrue fits => exact ih _ (measure ▸ less_room_of_linked fits) _ rfl
      case isFalse => exact keeps_throw_tooHigh _

theorem consumes_chain {stage : Operator → Bool} {operand : Parser Expr}
    (consumes : Consumes operand) : Consumes (chain stage operand) :=
  consumes_bind consumes fun first => keeps_chainFrom consumes.keeps first

theorem consumes_additive {nested : Parser Expr} (keeps : Keeps nested) :
    Consumes (additive nested) :=
  consumes_chain (consumes_chain (consumes_primary keeps))

theorem keeps_assignmentFrom {nested : Parser Expr} (keeps : Keeps nested) (target : Expr) :
    Keeps (assignmentFrom nested target) := by
  refine keeps_bind (keeps_accept _) fun accepted => ?_
  split
  · refine keeps_bind keeps fun value => ?_
    split
    · exact keeps_pure _
    · exact keeps_throw_tooHigh _
  · exact keeps_pure _

theorem consumes_expressionOver {nested : Parser Expr} (keeps : Keeps nested) :
    Consumes (expressionOver nested) :=
  consumes_bind (consumes_additive keeps) fun target => keeps_assignmentFrom keeps target

theorem consumes_expressionWithin (levels : Nat) : Consumes (expressionWithin levels) := by
  induction levels with
  | zero => exact consumes_current_bind fun _ parsed => consumes_failAt _ _ parsed
  | succ levels ih => exact consumes_expressionOver ih.keeps

theorem consumes_expression : Consumes expression := consumes_expressionWithin maxNesting

end CalcScript.Parser
