import CalcScript.Parser.Resumed

/-!
# Descents follow the parsers

A descent that stands where a stream stands does what the parsers do with that stream, with as many
levels left as its count leaves up to the limit. Its calls never go deeper than that, so the stack
never runs out of room. It stops where the parsers stop and on the level where it started, whether it
succeeds or fails, and what it passed before is of no account.
-/

set_option autoImplicit false

namespace CalcScript

/-- A descent on a level, with the tokens of a stream still to come. Nothing is said of the token
before them. -/
structure Descent.Shows (nesting : Nat) (descent : Descent) (stream : TokenStream) : Prop where
  current : descent.current = stream.current
  rest : descent.rest = stream.remaining.tail
  nesting : descent.nesting = nesting

namespace Descent.Shows

variable {nesting : Nat} {descent : Descent} {stream : TokenStream}

theorem bumped (shows : descent.Shows nesting stream) :
    descent.bumped.Shows nesting stream.advanced where
  current := by
    rw [Descent.bumped, shows.current, shows.rest, TokenStream.advanced, TokenStream.current]
    cases stream.remaining.tail <;> rfl
  rest := congrArg List.tail shows.rest
  nesting := shows.nesting

theorem entered (shows : descent.Shows nesting stream) :
    descent.entered.Shows (nesting + 1) stream where
  current := shows.current
  rest := shows.rest
  nesting := congrArg (· + 1) shows.nesting

theorem left (shows : descent.Shows (nesting + 1) stream) : descent.left.Shows nesting stream where
  current := shows.current
  rest := shows.rest
  nesting := by rw [Descent.left, shows.nesting, Nat.add_sub_cancel]

end Descent.Shows

namespace Descending

open CalcScript.Parser (maxNesting maxHeight operatorOf? tooHigh less_room_of_linked)

variable {α β : Type}

theorem bind_apply (first : Descending α) (second : α → Descending β) (descent : Descent) :
    (first >>= second) descent = (first descent).bind fun
      | (.ok value, middle) => second value middle
      | (.error error, middle) => some (.error error, middle) := by
  change (first descent).bind (fun pair => ExceptT.bindCont second pair.1 pair.2) = _
  cases first descent with
  | none => rfl
  | some pair =>
      obtain ⟨outcome, middle⟩ := pair
      cases outcome <;> rfl

/-- The same outcome of the machine and of a parser, which stop at the same place. -/
inductive Agree (nesting : Nat) :
    Option (Except SyntaxError α × Descent) → EStateM.Result SyntaxError TokenStream α → Prop where
  | ok {value : α} {stopped : Descent} {after : TokenStream} :
      stopped.Shows nesting after → Agree nesting (some (.ok value, stopped)) (.ok value after)
  | error {error : SyntaxError} {stopped : Descent} {after : TokenStream} :
      stopped.Shows nesting after → Agree nesting (some (.error error, stopped)) (.error error after)

/-- A part of the machine that does on a level what a parser does. -/
def Follows (nesting : Nat) (machine : Descending α) (parser : Parser α) : Prop :=
  ∀ ⦃descent : Descent⦄ ⦃stream : TokenStream⦄, descent.Shows nesting stream →
    Agree nesting (machine descent) (parser stream)

variable {nesting : Nat}

theorem Follows.bind {first : Descending α} {second : α → Descending β} {parser : Parser α}
    {next : α → Parser β} (left : Follows nesting first parser)
    (right : ∀ value, Follows nesting (second value) (next value)) :
    Follows nesting (first >>= second) (parser >>= next) := by
  intro descent stream shows
  have started := left shows
  change Agree nesting _ (EStateM.bind parser next stream)
  rw [bind_apply, EStateM.bind]
  generalize first descent = ran, parser stream = parsed at started
  cases started with
  | ok middle => exact right _ middle
  | error middle => exact .error middle

theorem follows_pure (value : α) : Follows nesting (pure value) (pure value) :=
  fun _ _ shows => .ok shows

theorem follows_throw (error : SyntaxError) :
    Follows nesting (throw error : Descending α) (throw error) :=
  fun _ _ shows => .error shows

theorem follows_ite {test : Prop} [Decidable test] {first second : Descending α}
    {parser other : Parser α} (left : Follows nesting first parser)
    (right : Follows nesting second other) :
    Follows nesting (if test then first else second) (if test then parser else other) := by
  split
  · exact left
  · exact right

theorem follows_bump : Follows nesting bump Parser.advance :=
  fun _ _ shows => .ok shows.bumped

/-- What is done after a look at the current token may depend on where that token stands. -/
theorem follows_current_bind {second : Token → Descending α} {next : Token → Parser α}
    (right : ∀ {descent stream}, descent.Shows nesting stream →
      Agree nesting (second descent.current descent) (next descent.current stream)) :
    Follows nesting (current >>= second) (Parser.current >>= next) := by
  intro descent stream shows
  rw [Parser.current_bind_apply, ← shows.current]
  exact right shows

theorem follows_accept (kind : TokenKind) :
    Follows nesting (accept kind) (Parser.accept kind) := by
  refine follows_current_bind fun {descent stream} shows => ?_
  by_cases same : descent.current.kind = kind
  · rw [if_pos same, if_pos same]
    exact .ok shows.bumped
  · rw [if_neg same, if_neg same]
    exact .ok shows

theorem follows_expect (kind : TokenKind) :
    Follows nesting (expect kind) (Parser.expect kind) := by
  refine follows_current_bind fun {descent stream} shows => ?_
  by_cases same : descent.current.kind = kind
  · rw [if_pos same, if_pos same]
    exact .ok shows.bumped
  · rw [if_neg same, if_neg same]
    exact .error shows

/-! ## Expressions -/

section Expressions

variable {nested : Descending Expr} {parser : Parser Expr} {room levels : Nat}

theorem Follows.primary (inner : Follows nesting nested parser) :
    Follows nesting (primary nested) (Parser.primary parser) := by
  refine follows_current_bind fun {descent stream} shows => ?_
  cases kind : descent.current.kind <;> simp only
  case identifier => exact .ok shows.bumped
  case number =>
    cases numeral : Number.read? descent.current.text with
    | none => exact .error shows
    | some value => exact .ok shows.bumped
  case openParen =>
    have group := inner.bind fun tree =>
      (follows_expect .closeParen).bind fun _ => follows_pure tree
    exact group shows.bumped
  all_goals exact .error shows

theorem Follows.chainFrom (stage : Operator → Bool) (operand : Follows nesting nested parser)
    (left : Expr) :
    Follows nesting (chainFrom stage nested left) (Parser.chainFrom stage parser left) := by
  -- every round leaves less height up to the limit
  induction measure : maxHeight - left.height using Nat.strongRecOn generalizing left with
  | ind room ih =>
      rw [Descending.chainFrom, Parser.chainFrom]
      refine follows_current_bind fun {descent stream} shows => ?_
      cases operatorOf? stage descent.current with
      | none => exact .ok shows
      | some operator =>
          refine (follows_bump.bind fun _ => operand.bind fun right => ?_) shows
          by_cases fits : (Expr.linked operator left right).height ≤ maxHeight
          · have shorter : maxHeight - (Expr.linked operator left right).height < room :=
              measure ▸ less_room_of_linked fits
            rw [dif_pos fits, dif_pos fits]
            exact ih _ shorter _ rfl
          · rw [dif_neg fits, dif_neg fits]
            exact follows_throw _

theorem Follows.chain (stage : Operator → Bool) (operand : Follows nesting nested parser) :
    Follows nesting (chain stage nested) (Parser.chain stage parser) :=
  operand.bind (operand.chainFrom stage)

theorem Follows.assignment (inner : Follows nesting nested parser) :
    Follows nesting (assignment nested) (Parser.expressionOver parser) := by
  have target : Follows nesting (additive nested) (Parser.additive parser) :=
    (inner.primary.chain _).chain _
  refine target.bind fun target => (follows_accept .equals).bind fun accepted => ?_
  cases accepted with
  | false => exact follows_pure target
  | true => exact inner.bind fun value => follows_ite (follows_pure _) (follows_throw _)

theorem expression_apply (room : Nat) (descent : Descent) :
    expression (room + 1) descent =
      if descent.nesting = maxNesting then
        some (.error ⟨.nestedTooDeep maxNesting, descent.current.span⟩, descent)
      else
        (assignment (expression room) descent.entered).map fun (outcome, stopped) =>
          (outcome, stopped.left) := by
  change (if descent.nesting = maxNesting then _ else _ : StateT Descent Option _) descent = _
  split
  · rfl
  · change (assignment (expression room) descent.entered).bind _ = _
    cases assignment (expression room) descent.entered <;> rfl

/-- Each level that is left to the parsers is a level up to the limit, and a stack with room for all
of them and one call more is deep enough. -/
theorem follows_expressionWithin (deep : nesting + levels = maxNesting) (enough : levels < room) :
    Follows nesting (expression room : Descending Expr) (Parser.expressionWithin levels) := by
  induction levels generalizing nesting room with
  | zero =>
      intro descent stream shows
      obtain ⟨room, rfl⟩ := Nat.exists_eq_add_of_lt enough
      rw [expression_apply, if_pos (shows.nesting.trans deep), shows.current]
      exact .error shows
  | succ levels ih =>
      intro descent stream shows
      obtain ⟨room, rfl⟩ : ∃ less, room = less + 1 := ⟨room - 1, by omega⟩
      have deeper : nesting + 1 + levels = maxNesting := by omega
      have inner := (ih deeper (Nat.lt_of_succ_lt_succ enough)).assignment shows.entered
      have below : descent.nesting ≠ maxNesting := by
        rw [shows.nesting]
        omega
      rw [expression_apply, if_neg below, Parser.expressionWithin]
      generalize assignment _ descent.entered = ran, Parser.expressionOver _ stream = parsed at inner
      cases inner with
      | ok stopped => exact .ok stopped.left
      | error stopped => exact .error stopped.left

theorem follows_expression (enough : maxNesting < room) :
    Follows 0 (expression room : Descending Expr) Parser.expression :=
  follows_expressionWithin (Nat.zero_add maxNesting) enough

end Expressions

end Descending

end CalcScript
