import CalcScript.Diagnostic.Basic

/-!
# Moved places

Everything that carries places can have them moved, which leaves the rest as it is. Where a place of
a text stands in a longer text, of which the text is the later part, is such a move.
-/

set_option autoImplicit false

namespace CalcScript

namespace Position

/-- Where a place of a text stands when the text goes on from `origin`. Only its first line does
not start at the first column. -/
def plus (origin place : Position) : Position where
  offset := place.offset + origin.offset
  line := place.line + (origin.line - 1)
  column := place.column + if place.line = 1 then origin.column - 1 else 0

theorem plus_start {origin : Position} (line : 1 ≤ origin.line) (column : 1 ≤ origin.column) :
    origin.plus start = origin := by
  obtain ⟨offset, lines, columns⟩ := origin
  simp only [plus, start, if_true, mk.injEq] at *
  omega

theorem plus_after {origin place : Position} (line : 1 ≤ place.line) (character : Char) :
    origin.plus (place.after character) = (origin.plus place).after character := by
  have later : ¬place.line + 1 = 1 := by omega
  by_cases feed : character = '\n'
  · simp only [plus, after, if_pos feed, if_neg later]
    congr 1 <;> omega
  · simp only [plus, after, if_neg feed]
    congr 1 <;> omega

theorem le_line_after (place : Position) (character : Char) :
    place.line ≤ (place.after character).line := by
  unfold after
  split
  · exact Nat.le_succ _
  · exact Nat.le_refl _

theorem le_line_advance (place : Position) (characters : List Char) :
    place.line ≤ (place.advance characters).line := by
  induction characters generalizing place with
  | nil => exact Nat.le_refl _
  | cons character later ih =>
      rw [advance_cons]
      exact Nat.le_trans (place.le_line_after character) (ih _)

theorem one_le_column_advance {place : Position} (column : 1 ≤ place.column)
    (characters : List Char) : 1 ≤ (place.advance characters).column := by
  induction characters generalizing place with
  | nil => exact column
  | cons character later ih =>
      rw [advance_cons]
      refine ih ?_
      unfold after
      split
      · exact Nat.le_refl _
      · exact Nat.le_add_left _ _

theorem plus_advance {origin place : Position} (line : 1 ≤ place.line) (characters : List Char) :
    origin.plus (place.advance characters) = (origin.plus place).advance characters := by
  induction characters generalizing place with
  | nil => rfl
  | cons character later ih =>
      rw [advance_cons, advance_cons, ih (Nat.le_trans line (place.le_line_after character)),
        plus_after line]

/-- The end of a text, as a place that another text goes on from. -/
def ofEnd (source : String) : Position := start.advance source.toList

theorem plus_ofEnd_start (source : String) : (ofEnd source).plus start = ofEnd source :=
  plus_start (start.le_line_advance _) (one_le_column_advance (Nat.le_refl _) _)

/-- A move that does not change which of two places is the earlier one. -/
structure Orderly (move : Position → Position) : Prop where
  earlier : ∀ left right, move (left.earlier right) = (move left).earlier (move right)
  later : ∀ left right, move (left.later right) = (move left).later (move right)

theorem Orderly.of_compare {move : Position → Position}
    (same : ∀ left right, compare (move left) (move right) = compare left right) :
    Orderly move where
  earlier := by
    intro left right
    rw [Position.earlier, Position.earlier, same]
    split <;> rfl
  later := by
    intro left right
    rw [Position.later, Position.later, same]
    split <;> rfl

theorem compare_add (left right more : Nat) :
    compare (left + more) (right + more) = compare left right := by
  simp only [Nat.compare_eq_ite_lt, Nat.add_lt_add_iff_right]

theorem compare_plus (origin left right : Position) :
    compare (origin.plus left) (origin.plus right) = compare left right := by
  change (compare (left.offset + _) (right.offset + _)).then
    ((compare (left.line + _) (right.line + _)).then
      (compare (left.column + _) (right.column + _))) =
    (compare left.offset right.offset).then
      ((compare left.line right.line).then (compare left.column right.column))
  rw [compare_add, compare_add]
  by_cases same : left.line = right.line
  · rw [same, compare_add]
  · cases lines : compare left.line right.line with
    | eq => exact absurd (Nat.compare_eq_eq.mp lines) same
    | lt => rfl
    | gt => rfl

theorem orderly_plus (origin : Position) : Orderly origin.plus := .of_compare origin.compare_plus

end Position

/-! ## What carries places -/

section Moved

variable (move : Position → Position)

def Span.moved (span : Span) : Span := ⟨move span.start, move span.stop⟩

def Token.moved (token : Token) : Token := { token with span := token.span.moved move }

def Expr.moved : Expr → Expr
  | number value span => number value (span.moved move)
  | name symbol span => name symbol (span.moved move)
  | binary operator left right span =>
    binary operator left.moved right.moved (span.moved move)
  | assignment target value span => assignment target.moved value.moved (span.moved move)

def Action.moved : Action → Action
  | expression value => .expression (value.moved move)
  | declaration constant name nameSpan value =>
    .declaration constant name (nameSpan.moved move) (value.map (Expr.moved move))

def Statement.moved (statement : Statement) : Statement :=
  ⟨statement.action.moved move, statement.span.moved move⟩

def Program.moved (program : Program) : Program := ⟨program.statements.map (Statement.moved move)⟩

def ForeignCharacter.moved (foreign : ForeignCharacter) : ForeignCharacter :=
  ⟨foreign.character, move foreign.position⟩

def SyntaxFault.moved : SyntaxFault → SyntaxFault
  | expectedToken expected found => .expectedToken expected (found.moved move)
  | expectedExpression found => .expectedExpression (found.moved move)
  | uninitializedConstant name => .uninitializedConstant name
  | nestedTooDeep limit => .nestedTooDeep limit

def SyntaxError.moved (error : SyntaxError) : SyntaxError :=
  ⟨error.fault.moved move, error.span.moved move⟩

def RuntimeError.moved (error : RuntimeError) : RuntimeError :=
  ⟨error.fault, error.span.moved move⟩

def Diagnostic.moved : Diagnostic → Diagnostic
  | lexical error => .lexical (error.moved move)
  | syntactic error => .syntactic (error.moved move)
  | runtime error => .runtime (error.moved move)

end Moved

/-! ## Moved trees -/

section Trees

variable {move : Position → Position}

theorem Span.join_moved (orderly : Position.Orderly move) (left right : Span) :
    (left.join right).moved move = (left.moved move).join (right.moved move) := by
  rw [Span.join, Span.join, Span.moved, orderly.earlier, orderly.later]
  rfl

theorem Expr.span_moved (tree : Expr) : (tree.moved move).span = tree.span.moved move := by
  cases tree <;> rfl

theorem Expr.height_moved (tree : Expr) : (tree.moved move).height = tree.height := by
  induction tree with
  | number value span => rfl
  | name symbol span => rfl
  | binary operator left right span leftIH rightIH =>
      rw [Expr.moved, Expr.height, leftIH, rightIH, Expr.height]
  | assignment target value span targetIH valueIH =>
      rw [Expr.moved, Expr.height, targetIH, valueIH, Expr.height]

theorem Expr.linked_moved (orderly : Position.Orderly move) (operator : Operator)
    (left right : Expr) :
    (linked operator left right).moved move =
      linked operator (left.moved move) (right.moved move) := by
  rw [linked, Expr.moved, Span.join_moved orderly, linked, left.span_moved, right.span_moved]

theorem Expr.assigned_moved (orderly : Position.Orderly move) (target value : Expr) :
    (assigned target value).moved move = assigned (target.moved move) (value.moved move) := by
  rw [assigned, Expr.moved, Span.join_moved orderly, assigned, target.span_moved,
    value.span_moved]

end Trees

end CalcScript
