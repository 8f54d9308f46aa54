import CalcScript.Proofs.Layout.Moved

/-!
# Parsers elsewhere

A parser decides by kinds and texts alone. On tokens that are moved in their order it does what it
does on the tokens themselves, with its result, its error and the rest of the stream moved likewise.
-/

set_option autoImplicit false

namespace CalcScript

def TokenStream.moved (move : Position → Position) (stream : TokenStream) : TokenStream :=
  ⟨stream.remaining.map (Token.moved move), stream.lastSpan.moved move⟩

theorem TokenStream.current_moved (move : Position → Position) (stream : TokenStream) :
    (stream.moved move).current = stream.current.moved move := by
  obtain ⟨remaining, last⟩ := stream
  cases remaining <;> rfl

theorem TokenStream.advanced_moved (move : Position → Position) (stream : TokenStream) :
    (stream.moved move).advanced = stream.advanced.moved move := by
  obtain ⟨remaining, last⟩ := stream
  cases remaining <;> rfl

namespace Parser

variable {α β : Type}

/-- An outcome of a parser with everything in it moved. -/
def movedOutcome (move : Position → Position) (change : α → α) :
    EStateM.Result SyntaxError TokenStream α → EStateM.Result SyntaxError TokenStream α
  | .ok value after => .ok (change value) (after.moved move)
  | .error error after => .error (error.moved move) (after.moved move)

/-- A parser that does on moved tokens what another does on the tokens themselves. -/
def Mirrors (move : Position → Position) (change : α → α) (parser mirror : Parser α) : Prop :=
  ∀ stream, mirror (stream.moved move) = movedOutcome move change (parser stream)

variable {move : Position → Position}

theorem Mirrors.bind {first firstMirror : Parser α} {second secondMirror : α → Parser β}
    {change : α → α} {changed : β → β} (left : Mirrors move change first firstMirror)
    (right : ∀ value, Mirrors move changed (second value) (secondMirror (change value))) :
    Mirrors move changed (first >>= second) (firstMirror >>= secondMirror) := by
  intro stream
  have started := left stream
  change EStateM.bind firstMirror secondMirror (stream.moved move) =
    movedOutcome move changed (EStateM.bind first second stream)
  unfold EStateM.bind
  rw [started]
  cases first stream with
  | ok value middle => exact right value middle
  | error error middle => rfl

theorem mirrors_pure (change : α → α) (value : α) :
    Mirrors move change (pure value) (pure (change value)) := fun _ => rfl

theorem mirrors_throw (change : α → α) (error : SyntaxError) :
    Mirrors move change (throw error) (throw (error.moved move)) := fun _ => rfl

theorem mirrors_failAt (change : α → α) (token : Token) (fault : SyntaxFault) :
    Mirrors move change (failAt token fault) (failAt (token.moved move) (fault.moved move)) :=
  fun _ => rfl

theorem mirrors_current : Mirrors move (Token.moved move) current current :=
  fun stream => congrArg (EStateM.Result.ok · (stream.moved move)) (stream.current_moved move)

theorem mirrors_advance : Mirrors move id advance advance :=
  fun stream => congrArg (EStateM.Result.ok ()) (stream.advanced_moved move)

theorem mirrors_lastSpan : Mirrors move (Span.moved move) lastSpan lastSpan := fun _ => rfl

theorem mirrors_ite {test : Prop} [Decidable test] {change : α → α}
    {first second firstMirror secondMirror : Parser α}
    (left : Mirrors move change first firstMirror)
    (right : Mirrors move change second secondMirror) :
    Mirrors move change (if test then first else second)
      (if test then firstMirror else secondMirror) := by
  split
  · exact left
  · exact right

theorem mirrors_accept (kind : TokenKind) : Mirrors move id (accept kind) (accept kind) := by
  refine .bind mirrors_current fun token => mirrors_ite ?_ (mirrors_pure id false)
  exact .bind mirrors_advance fun _ => mirrors_pure id true

theorem mirrors_expect (kind : TokenKind) :
    Mirrors move (Token.moved move) (expect kind) (expect kind) := by
  refine .bind mirrors_current fun token => mirrors_ite ?_ ?_
  · exact .bind mirrors_advance fun _ => mirrors_pure (Token.moved move) token
  · exact mirrors_failAt _ token (.expectedToken kind token)

/-! ## Expressions -/

section Expressions

variable {nested mirror : Parser Expr}

theorem Mirrors.primary (inner : Mirrors move (Expr.moved move) nested mirror) :
    Mirrors move (Expr.moved move) (primary nested) (primary mirror) := by
  refine .bind mirrors_current fun token => ?_
  have sameKind : (token.moved move).kind = token.kind := rfl
  have sameText : (token.moved move).text = token.text := rfl
  cases kind : token.kind <;> simp only [sameKind, kind]
  case identifier =>
    exact .bind mirrors_advance fun _ => mirrors_pure _ (Expr.name token.text token.span)
  case number =>
    cases numeral : Number.read? token.text <;> simp only [sameText, numeral]
    case none => exact mirrors_failAt _ token (.expectedExpression token)
    case some value =>
      exact .bind mirrors_advance fun _ => mirrors_pure _ (Expr.number value token.span)
  case openParen =>
    refine .bind mirrors_advance fun _ => .bind inner fun tree => ?_
    exact .bind (mirrors_expect .closeParen) fun _ => mirrors_pure _ tree
  all_goals exact mirrors_failAt _ token (.expectedExpression token)

theorem Mirrors.chainFrom (orderly : Position.Orderly move) (stage : Operator → Bool)
    (operand : Mirrors move (Expr.moved move) nested mirror) (left : Expr) :
    Mirrors move (Expr.moved move) (chainFrom stage nested left)
      (chainFrom stage mirror (left.moved move)) := by
  -- the height that is left is the same on both sides and bounds the rounds
  induction measure : maxHeight - left.height using Nat.strongRecOn generalizing left with
  | ind room ih =>
      rw [Parser.chainFrom, Parser.chainFrom]
      refine .bind mirrors_current fun token => ?_
      have sameSign : operatorOf? stage (token.moved move) = operatorOf? stage token := rfl
      rw [sameSign]
      cases operatorOf? stage token with
      | none => exact mirrors_pure _ left
      | some operator =>
          refine .bind mirrors_advance fun _ => .bind operand fun right => ?_
          have sameNode := Expr.linked_moved orderly operator left right
          have sameHeight :
              (Expr.linked operator (left.moved move) (right.moved move)).height =
                (Expr.linked operator left right).height := by
            rw [← sameNode, Expr.height_moved]
          by_cases fits : (Expr.linked operator left right).height ≤ maxHeight
          · have shorter : maxHeight - (Expr.linked operator left right).height < room :=
              measure ▸ less_room_of_linked fits
            have further := ih _ shorter _ rfl
            rw [sameNode] at further
            rw [dif_pos fits, dif_pos (sameHeight ▸ fits)]
            exact further
          · rw [dif_neg fits, dif_neg (sameHeight ▸ fits), ← sameNode]
            have sameError : tooHigh ((Expr.linked operator left right).moved move) =
                (tooHigh (.linked operator left right)).moved move :=
              congrArg (SyntaxError.mk _) (Expr.span_moved _)
            rw [sameError]
            exact mirrors_throw _ _

theorem Mirrors.chain (orderly : Position.Orderly move) (stage : Operator → Bool)
    (operand : Mirrors move (Expr.moved move) nested mirror) :
    Mirrors move (Expr.moved move) (chain stage nested) (chain stage mirror) :=
  .bind operand (operand.chainFrom orderly stage)

theorem Mirrors.expressionOver (orderly : Position.Orderly move)
    (inner : Mirrors move (Expr.moved move) nested mirror) :
    Mirrors move (Expr.moved move) (expressionOver nested) (expressionOver mirror) := by
  have target : Mirrors move (Expr.moved move) (additive nested) (additive mirror) :=
    (inner.primary.chain orderly _).chain orderly _
  refine .bind target fun target => .bind (mirrors_accept .equals) fun accepted => ?_
  cases accepted with
  | false => exact mirrors_pure _ target
  | true =>
      refine .bind inner fun value => ?_
      have sameNode := Expr.assigned_moved orderly target value
      have sameHeight : (Expr.assigned (target.moved move) (value.moved move)).height =
          (Expr.assigned target value).height := by
        rw [← sameNode, Expr.height_moved]
      by_cases fits : (Expr.assigned target value).height ≤ maxHeight
      · rw [if_pos fits, if_pos (sameHeight ▸ fits), ← sameNode]
        exact mirrors_pure _ _
      · rw [if_neg fits, if_neg (sameHeight ▸ fits), ← sameNode]
        have sameError : tooHigh ((Expr.assigned target value).moved move) =
            (tooHigh (.assigned target value)).moved move :=
          congrArg (SyntaxError.mk _) (Expr.span_moved _)
        rw [sameError]
        exact mirrors_throw _ _

theorem mirrors_expressionWithin (orderly : Position.Orderly move) (levels : Nat) :
    Mirrors move (Expr.moved move) (expressionWithin levels) (expressionWithin levels) := by
  induction levels with
  | zero => exact .bind mirrors_current fun token => mirrors_failAt _ token _
  | succ levels ih => exact ih.expressionOver orderly

theorem mirrors_expression (orderly : Position.Orderly move) :
    Mirrors move (Expr.moved move) expression expression :=
  mirrors_expressionWithin orderly maxNesting

end Expressions

/-! ## Statements -/

section Statements

variable (orderly : Position.Orderly move)

include orderly

theorem mirrors_initializer (constant : Bool) (keyword name : Token) :
    Mirrors move (Option.map (Expr.moved move)) (initializer constant keyword name)
      (initializer constant (keyword.moved move) (name.moved move)) := by
  refine .bind (mirrors_accept .semicolon) fun accepted => ?_
  cases accepted with
  | true =>
      cases constant with
      | false => exact mirrors_pure _ none
      | true =>
          refine .bind mirrors_lastSpan fun span => ?_
          have whole := Span.join_moved orderly keyword.span span
          have sameError : SyntaxError.mk (.uninitializedConstant (name.moved move).text)
                ((keyword.moved move).span.join (span.moved move)) =
              SyntaxError.moved move ⟨.uninitializedConstant name.text, keyword.span.join span⟩ :=
            congrArg (SyntaxError.mk _) whole.symm
          rw [sameError]
          exact mirrors_throw _ _
  | false =>
      refine .bind (mirrors_expect .equals) fun _ =>
        .bind (mirrors_expression orderly) fun value => ?_
      exact .bind (mirrors_expect .semicolon) fun _ => mirrors_pure _ (some value)

theorem mirrors_declaration (constant : Bool) :
    Mirrors move (Action.moved move) (declaration constant) (declaration constant) := by
  refine .bind mirrors_current fun keyword => .bind mirrors_advance fun _ => ?_
  refine .bind (mirrors_expect .identifier) fun name => ?_
  refine .bind (mirrors_initializer orderly constant keyword name) fun value => ?_
  exact mirrors_pure _ (Action.declaration constant name.text name.span value)

omit orderly in
theorem mirrors_terminator : Mirrors move id terminator terminator := by
  refine .bind (mirrors_accept .semicolon) fun accepted => ?_
  cases accepted with
  | true => exact mirrors_pure id ()
  | false =>
      refine .bind mirrors_current fun token => mirrors_ite (mirrors_pure id ()) ?_
      exact mirrors_failAt id token (.expectedToken .semicolon token)

theorem mirrors_expressionStatement :
    Mirrors move (Action.moved move) expressionStatement expressionStatement := by
  refine .bind (mirrors_expression orderly) fun value => .bind mirrors_terminator fun _ => ?_
  exact mirrors_pure _ (Action.expression value)

theorem mirrors_actionAt (first : Token) :
    Mirrors move (Action.moved move) (actionAt first) (actionAt (first.moved move)) := by
  have sameKind : (first.moved move).kind = first.kind := rfl
  unfold actionAt
  cases kind : first.kind <;> simp only [sameKind, kind]
  case letKeyword => exact mirrors_declaration orderly false
  case constKeyword => exact mirrors_declaration orderly true
  all_goals exact mirrors_expressionStatement orderly

theorem mirrors_statement : Mirrors move (Statement.moved move) statement statement := by
  refine .bind mirrors_current fun first => .bind (mirrors_actionAt orderly first) fun action => ?_
  refine .bind mirrors_lastSpan fun last => ?_
  have whole := Span.join_moved orderly first.span last
  have sameStatement : Statement.mk (action.moved move)
        ((first.moved move).span.join (last.moved move)) =
      Statement.moved move ⟨action, first.span.join last⟩ :=
    congrArg (Statement.mk _) whole.symm
  rw [sameStatement]
  exact mirrors_pure _ _

theorem statements_moved (stream : TokenStream) :
    statements (stream.moved move) =
      ((statements stream).map (List.map (Statement.moved move))).mapError
        (SyntaxError.moved move) := by
  have sameKind (stream : TokenStream) :
      (stream.moved move).current.kind = stream.current.kind := by
    rw [stream.current_moved]
    rfl
  induction stream using statements.induct with
  | case1 stream finished =>
      rw [statements_at_end finished, statements_at_end ((sameKind stream).trans finished)]
      rfl
  | case2 stream unfinished error after failed =>
      have mirrored := mirrors_statement orderly stream
      rw [failed] at mirrored
      rw [statements_of_error unfinished failed,
        statements_of_error (sameKind stream ▸ unfinished) mirrored]
      rfl
  | case3 stream unfinished first after read shorter ih =>
      have mirrored := mirrors_statement orderly stream
      rw [read] at mirrored
      rw [statements_of_ok unfinished read,
        statements_of_ok (sameKind stream ▸ unfinished) mirrored, ih]
      cases statements after <;> rfl

end Statements

end Parser

/-- Moved tokens form the moved program, or fail with the moved error. -/
theorem Program.ofTokens_moved {move : Position → Position} (orderly : Position.Orderly move)
    (fixed : move .unplaced = .unplaced) (tokens : List Token) :
    Program.ofTokens (tokens.map (Token.moved move)) =
      ((Program.ofTokens tokens).map (Program.moved move)).mapError (SyntaxError.moved move) := by
  have start : TokenStream.ofList (tokens.map (Token.moved move)) =
      (TokenStream.ofList tokens).moved move := by
    have still : Span.unplaced.moved move = Span.unplaced := congrArg Span.point fixed
    exact congrArg (TokenStream.mk _) still.symm
  rw [Program.ofTokens, start, Parser.statements_moved orderly, Program.ofTokens]
  cases Parser.statements (TokenStream.ofList tokens) <;> rfl

end CalcScript
