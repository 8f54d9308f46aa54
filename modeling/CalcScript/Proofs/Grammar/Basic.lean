import CalcScript.Parser.Program

/-!
# The grammar

Which lists of tokens derive which trees, said without a parser. A derivation accounts for every
token of its list. The rules of the two chained stages are left-recursive, so their trees lean to
the left; an assignment recurs on its right. Parentheses leave no node.

The span of a node is part of the tree: a leaf has that of its token, a compound joins those of its
two parts, and a statement reaches from its first token to its last.
-/

set_option autoImplicit false

namespace CalcScript.Grammar

open CalcScript.Parser

/-- The stages of expressions, from operands outwards. -/
inductive Stage where
  | primary
  | multiplicative
  | additive
  | expression
deriving DecidableEq

/-- A token that is written as a binary operator. -/
def Denotes (token : Token) (operator : Operator) : Prop :=
  token.kind = .operator ∧ Operator.ofSymbol? token.text = some operator

/-- The tokens of a list derive a tree at a stage. An expression takes up one of the levels that it
may be nested; parentheses and the right-hand side of an assignment each hold an expression. -/
inductive Derives : Stage → Nat → List Token → Expr → Prop where
  | name {levels : Nat} {token : Token} :
      token.kind = .identifier →
      Derives .primary levels [token] (.name token.text token.span)
  | number {levels : Nat} {token : Token} {value : Float} :
      token.kind = .number → Number.read? token.text = some value →
      Derives .primary levels [token] (.number value token.span)
  | group {levels : Nat} {opening closing : Token} {tokens : List Token} {tree : Expr} :
      opening.kind = .openParen → Derives .expression levels tokens tree →
      closing.kind = .closeParen →
      Derives .primary levels (opening :: tokens ++ [closing]) tree
  | factor {levels : Nat} {tokens : List Token} {tree : Expr} :
      Derives .primary levels tokens tree → Derives .multiplicative levels tokens tree
  | product {levels : Nat} {lefts rights : List Token} {sign : Token} {operator : Operator}
      {left right : Expr} :
      Derives .multiplicative levels lefts left → Denotes sign operator →
      operator.isMultiplicative = true → Derives .primary levels rights right →
      Derives .multiplicative levels (lefts ++ sign :: rights) (.linked operator left right)
  | term {levels : Nat} {tokens : List Token} {tree : Expr} :
      Derives .multiplicative levels tokens tree → Derives .additive levels tokens tree
  | sum {levels : Nat} {lefts rights : List Token} {sign : Token} {operator : Operator}
      {left right : Expr} :
      Derives .additive levels lefts left → Denotes sign operator →
      operator.isAdditive = true → Derives .multiplicative levels rights right →
      Derives .additive levels (lefts ++ sign :: rights) (.linked operator left right)
  | plain {levels : Nat} {tokens : List Token} {tree : Expr} :
      Derives .additive levels tokens tree → Derives .expression (levels + 1) tokens tree
  | assignment {levels : Nat} {targets values : List Token} {equals : Token}
      {target value : Expr} :
      Derives .additive levels targets target → equals.kind = .equals →
      Derives .expression levels values value →
      Derives .expression (levels + 1) (targets ++ equals :: values) (.assigned target value)

/-- Derivation of a tree that is not too high. -/
structure Admits (stage : Stage) (levels : Nat) (tokens : List Token) (tree : Expr) : Prop where
  derives : Derives stage levels tokens tree
  fits : tree.height ≤ maxHeight

/-- Expressions within both limits. -/
abbrev Limited : List Token → Expr → Prop := Admits .expression maxNesting

/-- Where the last of some tokens stands, or else the token before them. -/
def lastSpan (before : Span) (tokens : List Token) : Span :=
  tokens.foldl (fun _ token => token.span) before

/-- The span from the first of some tokens to the last. -/
def covering : List Token → Span
  | [] => Span.unplaced
  | first :: rest => first.span.join (lastSpan first.span rest)

/-- The kind of the keyword that a declaration starts with. -/
def keywordKind (constant : Bool) : TokenKind := if constant then .constKeyword else .letKeyword

theorem keywordKind_ne_endOfFile (constant : Bool) : keywordKind constant ≠ .endOfFile := by
  cases constant <;> decide

section Statements

variable (Expression : List Token → Expr → Prop)

/-- What a statement that ends with a semicolon does. Only a `let` may leave out its value. -/
inductive DerivesAction : List Token → Action → Prop where
  | bare {keyword name semicolon : Token} :
      keyword.kind = .letKeyword → name.kind = .identifier → semicolon.kind = .semicolon →
      DerivesAction [keyword, name, semicolon] (.declaration false name.text name.span none)
  | initialized {constant : Bool} {keyword name equals semicolon : Token} {tokens : List Token}
      {value : Expr} :
      keyword.kind = keywordKind constant → name.kind = .identifier → equals.kind = .equals →
      Expression tokens value → semicolon.kind = .semicolon →
      DerivesAction (keyword :: name :: equals :: tokens ++ [semicolon])
        (.declaration constant name.text name.span (some value))
  | expression {tokens : List Token} {value : Expr} {semicolon : Token} :
      Expression tokens value → semicolon.kind = .semicolon →
      DerivesAction (tokens ++ [semicolon]) (.expression value)

/-- The statements of a program. Only the very last may go without its semicolon, and only if it is
an expression. -/
inductive DerivesStatements : List Token → List Statement → Prop where
  | nil : DerivesStatements [] []
  | last {tokens : List Token} {value : Expr} :
      Expression tokens value →
      DerivesStatements tokens [⟨.expression value, covering tokens⟩]
  | cons {first rest : List Token} {action : Action} {statements : List Statement} :
      DerivesAction Expression first action → DerivesStatements rest statements →
      DerivesStatements (first ++ rest) (⟨action, covering first⟩ :: statements)

/-- What the tokens of one statement derive in front of another token, which has to be the end of
file if the semicolon is left out. -/
inductive DerivesBefore (next : Token) : List Token → Action → Prop where
  | closed {tokens : List Token} {action : Action} :
      DerivesAction Expression tokens action → DerivesBefore next tokens action
  | last {tokens : List Token} {value : Expr} :
      Expression tokens value → next.kind = .endOfFile →
      DerivesBefore next tokens (.expression value)

end Statements

/-! ## Which tokens occur in a derivation -/

theorem operatorOf?_eq_some_iff {stage : Operator → Bool} {token : Token} {operator : Operator} :
    operatorOf? stage token = some operator ↔ Denotes token operator ∧ stage operator = true := by
  unfold operatorOf? Denotes
  by_cases kind : token.kind = .operator
  · simp [kind, Option.filter_eq_some_iff]
  · simp [kind]

/-- The tokens that only occur between expressions. -/
def separates : TokenKind → Bool
  | .letKeyword | .constKeyword | .semicolon | .endOfFile => true
  | _ => false

theorem Derives.inner {stage : Stage} {levels : Nat} {tokens : List Token} {tree : Expr}
    (derived : Derives stage levels tokens tree) :
    ∀ token ∈ tokens, separates token.kind = false := by
  induction derived with
  | name kind | number kind => simp [separates, kind]
  | group opens _ closes ih => simpa [separates, opens, closes, or_imp, forall_and] using ih
  | factor _ ih | term _ ih | plain _ ih => exact ih
  | product _ sign _ _ leftIH rightIH | sum _ sign _ _ leftIH rightIH =>
    simpa [separates, sign.1, or_imp, forall_and] using ⟨leftIH, rightIH⟩
  | assignment _ equals _ targetIH valueIH =>
    simpa [separates, equals, or_imp, forall_and] using ⟨targetIH, valueIH⟩

theorem Derives.proper {stage : Stage} {levels : Nat} {tokens : List Token} {tree : Expr}
    (derived : Derives stage levels tokens tree) :
    ∀ token ∈ tokens, token.kind ≠ .endOfFile := by
  intro token among kind
  have inner := derived.inner token among
  rw [kind] at inner
  cases inner

/-- Every expression starts with a name, a number or an open parenthesis. -/
theorem Derives.exists_first {stage : Stage} {levels : Nat} {tokens : List Token} {tree : Expr}
    (derived : Derives stage levels tokens tree) :
    ∃ first rest, tokens = first :: rest ∧
      (first.kind = .identifier ∨ first.kind = .number ∨ first.kind = .openParen) := by
  induction derived with
  | name kind => exact ⟨_, _, rfl, .inl kind⟩
  | number kind => exact ⟨_, _, rfl, .inr (.inl kind)⟩
  | group opens => exact ⟨_, _, rfl, .inr (.inr opens)⟩
  | factor _ ih | term _ ih | plain _ ih => exact ih
  | product _ _ _ _ leftIH | sum _ _ _ _ leftIH | assignment _ _ _ leftIH =>
    obtain ⟨first, rest, rfl, kind⟩ := leftIH
    exact ⟨first, _, rfl, kind⟩

theorem Derives.ne_nil {stage : Stage} {levels : Nat} {tokens : List Token} {tree : Expr}
    (derived : Derives stage levels tokens tree) : tokens ≠ [] := by
  obtain ⟨first, rest, rfl, -⟩ := derived.exists_first
  exact List.cons_ne_nil first rest

theorem DerivesAction.ne_nil {Expression : List Token → Expr → Prop} {tokens : List Token}
    {action : Action} (derived : DerivesAction Expression tokens action) : tokens ≠ [] := by
  cases derived <;> simp

theorem DerivesAction.proper {Expression : List Token → Expr → Prop}
    (expressionProper : ∀ {tokens value}, Expression tokens value →
      ∀ token ∈ tokens, token.kind ≠ .endOfFile)
    {tokens : List Token} {action : Action} (derived : DerivesAction Expression tokens action) :
    ∀ token ∈ tokens, token.kind ≠ .endOfFile := by
  cases derived with
  | bare keyword name semicolon => simp [keyword, name, semicolon]
  | @initialized constant _ _ _ _ _ _ keyword name equals value semicolon =>
    have start := keywordKind_ne_endOfFile constant
    simpa [keyword, name, equals, semicolon, start, or_imp, forall_and] using
      expressionProper value
  | expression value semicolon =>
    simpa [semicolon, or_imp, forall_and] using expressionProper value

theorem DerivesStatements.proper {Expression : List Token → Expr → Prop}
    (expressionProper : ∀ {tokens value}, Expression tokens value →
      ∀ token ∈ tokens, token.kind ≠ .endOfFile)
    {tokens : List Token} {statements : List Statement}
    (derived : DerivesStatements Expression tokens statements) :
    ∀ token ∈ tokens, token.kind ≠ .endOfFile := by
  induction derived with
  | nil => simp
  | last value => exact expressionProper value
  | cons first _ ih =>
    intro token member
    rcases List.mem_append.mp member with inFirst | inRest
    · exact first.proper expressionProper token inFirst
    · exact ih token inRest

/-- Statements after statements that end with a semicolon. -/
theorem DerivesStatements.append {first second : List Token} {earlier later : List Statement}
    (derived : DerivesStatements Limited first earlier)
    (closed : ∀ token ∈ first.getLast?, token.kind = .semicolon)
    (rest : DerivesStatements Limited second later) :
    DerivesStatements Limited (first ++ second) (earlier ++ later) := by
  induction derived with
  | nil => exact rest
  | last value =>
    have nonempty := value.derives.ne_nil
    have kind := closed _ (List.getLast?_eq_some_getLast nonempty)
    have inner := value.derives.inner _ (List.getLast_mem nonempty)
    rw [kind] at inner
    cases inner
  | cons action _ ih =>
    rw [List.append_assoc]
    refine .cons action (ih fun token among => closed token ?_)
    rw [Option.mem_def] at among ⊢
    rw [List.getLast?_append, among]
    rfl

end CalcScript.Grammar
