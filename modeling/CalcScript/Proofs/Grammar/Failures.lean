import CalcScript.Proofs.Grammar.Completeness

/-!
# How expressions fail

A parser that fails has read a run of tokens and stands in front of the token that it cannot go on
with, or it has just finished a tree that is too high. The rules below follow the rules of the
grammar: each place where an expression can break off has one rule, with everything before it
derived in full. What was read in full is in front of a token that could not have carried it on.
-/

set_option autoImplicit false

namespace CalcScript.Grammar

open CalcScript.Parser

/-- A token that an expression can start with. -/
def Starts (token : Token) : Prop :=
  token.kind = .identifier ∨ token.kind = .openParen ∨
    token.kind = .number ∧ (Number.read? token.text).isSome = true

/-- The error of tokens that break off in front of another, at a stage of expressions. -/
inductive Fails (next : Token) : Stage → Nat → List Token → SyntaxError → Prop where
  | operand {levels : Nat} :
      ¬ Starts next → Fails next .primary levels [] ⟨.expectedExpression next, next.span⟩
  | group {levels : Nat} {opening : Token} {tokens : List Token} {error : SyntaxError} :
      opening.kind = .openParen → Fails next .expression levels tokens error →
      Fails next .primary levels (opening :: tokens) error
  | unclosed {levels : Nat} {opening : Token} {tokens : List Token} {tree : Expr} :
      opening.kind = .openParen → Admits .expression levels tokens tree →
      Stage.expression.Delimits next → next.kind ≠ .closeParen →
      Fails next .primary levels (opening :: tokens) ⟨.expectedToken .closeParen next, next.span⟩
  | factor {levels : Nat} {tokens : List Token} {error : SyntaxError} :
      Fails next .primary levels tokens error → Fails next .multiplicative levels tokens error
  | product {levels : Nat} {lefts rights : List Token} {sign : Token} {operator : Operator}
      {left : Expr} {error : SyntaxError} :
      Admits .multiplicative levels lefts left → Denotes sign operator →
      operator.isMultiplicative = true → Fails next .primary levels rights error →
      Fails next .multiplicative levels (lefts ++ sign :: rights) error
  | highProduct {levels : Nat} {lefts rights : List Token} {sign : Token} {operator : Operator}
      {left right : Expr} :
      Admits .multiplicative levels lefts left → Denotes sign operator →
      operator.isMultiplicative = true → Admits .primary levels rights right →
      maxHeight < (Expr.linked operator left right).height →
      Fails next .multiplicative levels (lefts ++ sign :: rights)
        (tooHigh (.linked operator left right))
  | term {levels : Nat} {tokens : List Token} {error : SyntaxError} :
      Fails next .multiplicative levels tokens error → Fails next .additive levels tokens error
  | sum {levels : Nat} {lefts rights : List Token} {sign : Token} {operator : Operator}
      {left : Expr} {error : SyntaxError} :
      Admits .additive levels lefts left → Denotes sign operator →
      operator.isAdditive = true → Fails next .multiplicative levels rights error →
      Fails next .additive levels (lefts ++ sign :: rights) error
  | highSum {levels : Nat} {lefts rights : List Token} {sign : Token} {operator : Operator}
      {left right : Expr} :
      Admits .additive levels lefts left → Denotes sign operator →
      operator.isAdditive = true → Admits .multiplicative levels rights right →
      Stage.additive.Delimits next → maxHeight < (Expr.linked operator left right).height →
      Fails next .additive levels (lefts ++ sign :: rights) (tooHigh (.linked operator left right))
  | nesting : Fails next .expression 0 [] ⟨.nestedTooDeep maxNesting, next.span⟩
  | target {levels : Nat} {tokens : List Token} {error : SyntaxError} :
      Fails next .additive levels tokens error → Fails next .expression (levels + 1) tokens error
  | value {levels : Nat} {targets values : List Token} {equals : Token} {target : Expr}
      {error : SyntaxError} :
      Admits .additive levels targets target → equals.kind = .equals →
      Fails next .expression levels values error →
      Fails next .expression (levels + 1) (targets ++ equals :: values) error
  | highAssignment {levels : Nat} {targets values : List Token} {equals : Token}
      {target value : Expr} :
      Admits .additive levels targets target → equals.kind = .equals →
      Admits .expression levels values value → Stage.expression.Delimits next →
      maxHeight < (Expr.assigned target value).height →
      Fails next .expression (levels + 1) (targets ++ equals :: values)
        (tooHigh (.assigned target value))

/-! ## Where a stage ends -/

/-- What is known of the token in front of which a parser has stopped. -/
def Ends (parser : Parser Expr) (Stop : Token → Prop) : Prop :=
  ∀ ⦃before after : TokenStream⦄ ⦃tree : Expr⦄,
    parser before = .ok tree after → Stop after.current

section Ends

variable {stage : Operator → Bool} {operand nested : Parser Expr} {Stop : Token → Prop}

theorem chainFrom_ends (operandEnds : Ends operand Stop) {left : Expr}
    {before after : TokenStream} {tree : Expr} (stopped : Stop before.current)
    (parsed : chainFrom stage operand left before = .ok tree after) :
    Stop after.current ∧ operatorOf? stage after.current = none := by
  induction measure : maxHeight - left.height using Nat.strongRecOn
    generalizing left before with
  | ind room ih =>
      rw [chainFrom, current_bind_apply] at parsed
      cases sign : operatorOf? stage before.current with
      | none =>
          simp only [sign] at parsed
          cases parsed
          exact ⟨stopped, sign⟩
      | some operator =>
          simp only [sign, advance_bind_apply] at parsed
          obtain ⟨right, middle, rightParsed, rest⟩ := bind_eq_ok_iff.mp parsed
          split at rest
          case isTrue fits =>
            have shorter : maxHeight - (Expr.linked operator left right).height < room :=
              measure ▸ less_room_of_linked fits
            exact ih _ shorter (operandEnds rightParsed) rest rfl
          case isFalse => cases rest

theorem chain_ends (operandEnds : Ends operand Stop) :
    Ends (chain stage operand) fun token => Stop token ∧ operatorOf? stage token = none := by
  intro before after tree parsed
  obtain ⟨first, middle, firstParsed, rest⟩ := bind_eq_ok_iff.mp parsed
  exact chainFrom_ends operandEnds (operandEnds firstParsed) rest

theorem multiplicative_ends :
    Ends (Parser.multiplicative nested) Stage.additive.Delimits := by
  have operandEnds : Ends (Parser.primary nested) fun _ => True := fun _ _ _ _ => trivial
  exact fun _ _ _ parsed => (chain_ends operandEnds parsed).2

theorem expressionOver_ends (nestedEnds : Ends nested Stage.expression.Delimits) :
    Ends (expressionOver nested) Stage.expression.Delimits := by
  intro before after tree parsed
  obtain ⟨target, middle, targetParsed, rest⟩ := bind_eq_ok_iff.mp parsed
  obtain ⟨noFactor, noTerm⟩ := chain_ends multiplicative_ends targetParsed
  rw [assignmentFrom, accept_bind_apply] at rest
  split at rest
  case isTrue =>
    obtain ⟨value, last, valueParsed, final⟩ := bind_eq_ok_iff.mp rest
    have ended := nestedEnds valueParsed
    split at final
    case isTrue =>
      cases final
      exact ended
    case isFalse => cases final
  case isFalse noEquals =>
    cases rest
    exact ⟨noFactor, noTerm, noEquals⟩

theorem expressionWithin_ends (levels : Nat) :
    Ends (expressionWithin levels) Stage.expression.Delimits := by
  induction levels with
  | zero =>
      intro before after tree parsed
      cases parsed
  | succ levels ih => exact expressionOver_ends ih

end Ends

/-! ## Failures of expressions -/

/-- The tokens that a failing parser has read, and the token in front of it, explain its error. -/
def Blames (parser : Parser Expr) (Failure : Token → List Token → SyntaxError → Prop) : Prop :=
  ∀ ⦃before after : TokenStream⦄ ⦃error : SyntaxError⦄, parser before = .error error after →
    ∃ tokens, Reads before tokens after ∧ Failure after.current tokens error

section Chains

variable {stage : Operator → Bool} {operand : Parser Expr}
  {Operand Chain : List Token → Expr → Prop} {Stop : Token → Prop}
  {OperandFails : Token → List Token → SyntaxError → Prop}
  (ChainFails : Token → List Token → SyntaxError → Prop)

/-- The loop of a chain fails with the operand after a sign, or with the link that they make. -/
theorem chainFrom_blames (operandSound : Sound operand Operand) (operandEnds : Ends operand Stop)
    (operandBlames : Blames operand OperandFails)
    (link : ∀ {lefts rights : List Token} {sign : Token} {operator : Operator} {left right : Expr},
      Chain lefts left → Denotes sign operator → stage operator = true → Operand rights right →
        (Expr.linked operator left right).height ≤ maxHeight →
        Chain (lefts ++ sign :: rights) (.linked operator left right))
    (breaks : ∀ {next sign : Token} {lefts rights : List Token} {operator : Operator} {left : Expr}
      {error : SyntaxError}, Chain lefts left → Denotes sign operator → stage operator = true →
        OperandFails next rights error → ChainFails next (lefts ++ sign :: rights) error)
    (high : ∀ {next sign : Token} {lefts rights : List Token} {operator : Operator}
      {left right : Expr}, Chain lefts left → Denotes sign operator → stage operator = true →
        Operand rights right → Stop next → maxHeight < (Expr.linked operator left right).height →
        ChainFails next (lefts ++ sign :: rights) (tooHigh (.linked operator left right)))
    {lefts : List Token} {left : Expr} (leftChain : Chain lefts left)
    {before after : TokenStream} {error : SyntaxError}
    (failed : chainFrom stage operand left before = .error error after) :
    ∃ tokens, Reads before tokens after ∧ ChainFails after.current (lefts ++ tokens) error := by
  induction measure : maxHeight - left.height using Nat.strongRecOn
    generalizing left lefts before with
  | ind room ih =>
      rw [chainFrom, current_bind_apply] at failed
      cases sign : operatorOf? stage before.current with
      | none =>
          simp only [sign] at failed
          cases failed
      | some operator =>
          simp only [sign, advance_bind_apply] at failed
          obtain ⟨denotes, staged⟩ := operatorOf?_eq_some_iff.mp sign
          have signed : before.current.kind ≠ .endOfFile := by simp [denotes.1]
          rcases bind_eq_error_iff.mp failed with operandFailed | ⟨right, middle, parsed, rest⟩
          · obtain ⟨rights, rightRead, failure⟩ := operandBlames operandFailed
            exact ⟨_, .cons signed rightRead, breaks leftChain denotes staged failure⟩
          · obtain ⟨rights, rightRead, rightOperand⟩ := operandSound parsed
            split at rest
            case isTrue fits =>
              have longer := link leftChain denotes staged rightOperand fits
              have shorter : maxHeight - (Expr.linked operator left right).height < room :=
                measure ▸ less_room_of_linked fits
              obtain ⟨more, moreRead, failure⟩ := ih _ shorter longer rest rfl
              refine ⟨before.current :: rights ++ more, ?_, by simpa using failure⟩
              exact (Reads.cons signed rightRead).trans moreRead
            case isFalse unfit =>
              cases rest
              exact ⟨_, .cons signed rightRead, high leftChain denotes staged rightOperand
                (operandEnds parsed) (Nat.lt_of_not_le unfit)⟩

end Chains

section Nested

variable {nested : Parser Expr} {levels : Nat}

theorem primary_blames (nestedSound : Sound nested (Admits .expression levels))
    (nestedEnds : Ends nested Stage.expression.Delimits)
    (nestedBlames : Blames nested (Fails · .expression levels)) :
    Blames (Parser.primary nested) (Fails · .primary levels) := by
  intro before after error failed
  simp only [Parser.primary, current_bind_apply] at failed
  cases kind : before.current.kind <;> simp only [kind] at failed
  case identifier => cases failed
  case number =>
    cases numeral : Number.read? before.current.text <;> simp only [numeral] at failed
    case some value => cases failed
    case none =>
      cases failed
      exact ⟨[], .refl _, .operand (by simp [Starts, kind, numeral])⟩
  case openParen =>
    have opened : before.current.kind ≠ .endOfFile := by simp [kind]
    rw [advance_bind_apply] at failed
    rcases bind_eq_error_iff.mp failed with nestedFailed | ⟨inner, middle, parsed, rest⟩
    · obtain ⟨tokens, read, failure⟩ := nestedBlames nestedFailed
      exact ⟨_, .cons opened read, .group kind failure⟩
    · obtain ⟨tokens, read, admitted⟩ := nestedSound parsed
      rw [expect_bind_apply] at rest
      split at rest
      case isTrue => cases rest
      case isFalse open' =>
        cases rest
        exact ⟨_, .cons opened read, .unclosed kind admitted (nestedEnds parsed) open'⟩
  all_goals
    cases failed
    exact ⟨[], .refl _, .operand (by simp [Starts, kind])⟩

theorem multiplicative_blames (nestedSound : Sound nested (Admits .expression levels))
    (operandBlames : Blames (Parser.primary nested) (Fails · .primary levels)) :
    Blames (Parser.multiplicative nested) (Fails · .multiplicative levels) := by
  have operandEnds : Ends (Parser.primary nested) fun _ => True := fun _ _ _ _ => trivial
  intro before after error failed
  rcases bind_eq_error_iff.mp failed with operandFailed | ⟨first, middle, parsed, rest⟩
  · obtain ⟨tokens, read, failure⟩ := operandBlames operandFailed
    exact ⟨tokens, read, .factor failure⟩
  · obtain ⟨tokens, read, operand⟩ := primary_sound nestedSound parsed
    have start : Admits .multiplicative levels tokens first := ⟨.factor operand.derives, operand.fits⟩
    obtain ⟨more, moreRead, failure⟩ := chainFrom_blames (Fails · .multiplicative levels)
      (primary_sound nestedSound) operandEnds operandBlames
      (fun left sign staged right fits => ⟨.product left.derives sign staged right.derives, fits⟩)
      Fails.product
      (fun left sign staged right _ high => Fails.highProduct left sign staged right high) start rest
    exact ⟨tokens ++ more, read.trans moreRead, failure⟩

theorem additive_blames (nestedSound : Sound nested (Admits .expression levels))
    (operandBlames : Blames (Parser.multiplicative nested) (Fails · .multiplicative levels)) :
    Blames (Parser.additive nested) (Fails · .additive levels) := by
  intro before after error failed
  rcases bind_eq_error_iff.mp failed with operandFailed | ⟨first, middle, parsed, rest⟩
  · obtain ⟨tokens, read, failure⟩ := operandBlames operandFailed
    exact ⟨tokens, read, .term failure⟩
  · obtain ⟨tokens, read, operand⟩ := multiplicative_sound nestedSound parsed
    have start : Admits .additive levels tokens first := ⟨.term operand.derives, operand.fits⟩
    obtain ⟨more, moreRead, failure⟩ := chainFrom_blames (Fails · .additive levels)
      (multiplicative_sound nestedSound) multiplicative_ends operandBlames
      (fun left sign staged right fits => ⟨.sum left.derives sign staged right.derives, fits⟩)
      Fails.sum Fails.highSum start rest
    exact ⟨tokens ++ more, read.trans moreRead, failure⟩

theorem expressionOver_blames (nestedSound : Sound nested (Admits .expression levels))
    (nestedEnds : Ends nested Stage.expression.Delimits)
    (nestedBlames : Blames nested (Fails · .expression levels)) :
    Blames (expressionOver nested) (Fails · .expression (levels + 1)) := by
  have targetBlames := additive_blames nestedSound (multiplicative_blames nestedSound
    (primary_blames nestedSound nestedEnds nestedBlames))
  intro before after error failed
  rcases bind_eq_error_iff.mp failed with targetFailed | ⟨target, middle, targetParsed, rest⟩
  · obtain ⟨tokens, read, failure⟩ := targetBlames targetFailed
    exact ⟨tokens, read, .target failure⟩
  · obtain ⟨targets, targetRead, targetAdmitted⟩ := additive_sound nestedSound targetParsed
    rw [assignmentFrom, accept_bind_apply] at rest
    split at rest
    case isFalse => cases rest
    case isTrue equals =>
      have passed : middle.current.kind ≠ .endOfFile := by simp [equals]
      rcases bind_eq_error_iff.mp rest with valueFailed | ⟨value, last, valueParsed, final⟩
      · obtain ⟨values, valueRead, failure⟩ := nestedBlames valueFailed
        exact ⟨_, targetRead.trans (.cons passed valueRead), .value targetAdmitted equals failure⟩
      · obtain ⟨values, valueRead, valueAdmitted⟩ := nestedSound valueParsed
        split at final
        case isTrue => cases final
        case isFalse unfit =>
          cases final
          exact ⟨_, targetRead.trans (.cons passed valueRead), .highAssignment targetAdmitted equals
            valueAdmitted (nestedEnds valueParsed) (Nat.lt_of_not_le unfit)⟩

end Nested

theorem Fails.inner {next : Token} {stage : Stage} {levels : Nat} {tokens : List Token}
    {error : SyntaxError} (fails : Fails next stage levels tokens error) :
    ∀ token ∈ tokens, separates token.kind = false := by
  induction fails with
  | operand | nesting => simp
  | group opens _ ih => simpa [separates, opens] using ih
  | unclosed opens inner => simpa [separates, opens] using inner.derives.inner
  | factor _ ih | term _ ih | target _ ih => exact ih
  | product left sign _ _ ih | sum left sign _ _ ih =>
    simpa [separates, sign.1, or_imp, forall_and] using ⟨left.derives.inner, ih⟩
  | highProduct left sign _ right | highSum left sign _ right =>
    simpa [separates, sign.1, or_imp, forall_and] using ⟨left.derives.inner, right.derives.inner⟩
  | value target equals _ ih =>
    simpa [separates, equals, or_imp, forall_and] using ⟨target.derives.inner, ih⟩
  | highAssignment target equals value =>
    simpa [separates, equals, or_imp, forall_and] using ⟨target.derives.inner, value.derives.inner⟩

theorem Fails.proper {next : Token} {stage : Stage} {levels : Nat} {tokens : List Token}
    {error : SyntaxError} (fails : Fails next stage levels tokens error) :
    ∀ token ∈ tokens, token.kind ≠ .endOfFile := by
  intro token among kind
  have inner := fails.inner token among
  rw [kind] at inner
  cases inner

theorem expressionWithin_blames (levels : Nat) :
    Blames (expressionWithin levels) (Fails · .expression levels) := by
  induction levels with
  | zero =>
      intro before after error failed
      cases failed
      exact ⟨[], .refl _, .nesting⟩
  | succ levels ih =>
      exact expressionOver_blames (expressionWithin_sound levels) (expressionWithin_ends levels) ih

theorem expression_ends : Ends expression Stage.expression.Delimits :=
  expressionWithin_ends maxNesting

theorem expression_blames : Blames expression (Fails · .expression maxNesting) :=
  expressionWithin_blames maxNesting

end CalcScript.Grammar
