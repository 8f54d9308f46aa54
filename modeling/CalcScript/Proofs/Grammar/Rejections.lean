import CalcScript.Proofs.Grammar.FailedPrograms

/-!
# What fails is rejected

Every failure that the rules allow is the one that the parser reports, in front of the same token.
The rules look at no token behind that one, so neither does the parser.
-/

set_option autoImplicit false

namespace CalcScript.Grammar

open CalcScript.Parser

/-! ## Loops that fail -/

section Chains

variable {stage : Operator → Bool} {operand : Parser Expr} {operator : Operator}
  {left right : Expr} {error : SyntaxError} {stream after : TokenStream}

theorem chainFrom_breaks (denotes : Denotes stream.current operator)
    (staged : stage operator = true) (failed : operand stream.advanced = .error error after) :
    chainFrom stage operand left stream = .error error after := by
  rw [chainFrom, current_bind_apply]
  simp only [operatorOf?_eq_some_iff.mpr ⟨denotes, staged⟩]
  rw [advance_bind_apply]
  exact bind_eq_error_iff.mpr (.inl failed)

theorem chainFrom_tooHigh (denotes : Denotes stream.current operator)
    (staged : stage operator = true) (parsed : operand stream.advanced = .ok right after)
    (high : maxHeight < (Expr.linked operator left right).height) :
    chainFrom stage operand left stream = .error (tooHigh (.linked operator left right)) after := by
  rw [chainFrom, current_bind_apply]
  simp only [operatorOf?_eq_some_iff.mpr ⟨denotes, staged⟩]
  rw [advance_bind_apply, bind_of_ok parsed, dif_neg (Nat.not_le.mpr high)]
  rfl

end Chains

/-! ## Stages that succeed -/

section Stages

variable {levels : Nat} {tokens : List Token} {tree : Expr} {before after : TokenStream}

theorem Admits.multiplicative_eq (admitted : Admits .multiplicative levels tokens tree)
    (read : Reads before tokens after) (delimited : Stage.additive.Delimits after.current) :
    Parser.multiplicative (expressionWithin levels) before = .ok tree after :=
  (admitted.derives.parser_eq admitted.fits read trivial).trans (chainFrom_stops delimited)

theorem Admits.additive_eq (admitted : Admits .additive levels tokens tree)
    (read : Reads before tokens after) (noFactor : Stage.additive.Delimits after.current)
    (noTerm : operatorOf? Operator.isAdditive after.current = none) :
    Parser.additive (expressionWithin levels) before = .ok tree after :=
  (admitted.derives.parser_eq admitted.fits read noFactor).trans (chainFrom_stops noTerm)

/-- A target is read up to its equals sign. -/
theorem Admits.target_eq (admitted : Admits .additive levels tokens tree)
    (read : Reads before tokens after) (equals : after.current.kind = .equals) :
    Parser.additive (expressionWithin levels) before = .ok tree after := by
  have noOperator : after.current.kind ≠ .operator := by simp [equals]
  exact admitted.additive_eq read (operatorOf?_eq_none_of_kind noOperator)
    (operatorOf?_eq_none_of_kind noOperator)

end Stages

/-! ## Expressions that fail -/

theorem primary_of_not_starts {nested : Parser Expr} {stream : TokenStream}
    (unfit : ¬ Starts stream.current) :
    Parser.primary nested stream =
      .error ⟨.expectedExpression stream.current, stream.current.span⟩ stream := by
  have kinds : stream.current.kind ≠ .identifier ∧ stream.current.kind ≠ .openParen ∧
      (stream.current.kind = .number → Number.read? stream.current.text = none) := by
    simpa [Starts, not_or] using unfit
  obtain ⟨noName, noParen, noNumber⟩ := kinds
  simp only [Parser.primary, current_bind_apply]
  cases kind : stream.current.kind <;> simp only
  case identifier => exact absurd kind noName
  case openParen => exact absurd kind noParen
  case number =>
    rw [noNumber kind]
    rfl
  all_goals rfl

theorem Fails.parser_eq {next : Token} {stage : Stage} {levels : Nat} {tokens : List Token}
    {error : SyntaxError} (fails : Fails next stage levels tokens error)
    {before after : TokenStream} (read : Reads before tokens after)
    (facing : after.current = next) : stage.parser levels before = .error error after := by
  induction fails generalizing before with
  | operand unfit =>
      cases read.eq_of_nil
      subst facing
      exact primary_of_not_starts unfit
  | group opens _ ih =>
      have opening := read.current_eq
      have inner := ih read.tail
      simp only [Stage.parser, Parser.primary, current_bind_apply, opening, opens]
      rw [advance_bind_apply]
      exact bind_eq_error_iff.mpr (.inl inner)
  | unclosed opens inner delimits unclosed =>
      subst facing
      have opening := read.current_eq
      have parsed := inner.derives.parser_eq inner.fits read.tail delimits
      simp only [Stage.parser, Parser.primary, current_bind_apply, opening, opens]
      rw [advance_bind_apply]
      refine bind_eq_error_iff.mpr (.inr ⟨_, _, parsed, ?_⟩)
      rw [expect_bind_apply, if_neg unclosed]
  | factor _ ih | term _ ih => exact bind_eq_error_iff.mpr (.inl (ih read))
  | product left sign staged _ ih =>
      obtain ⟨middle, leftRead, rightRead⟩ := read.split
      have resumed := left.derives.parser_eq left.fits leftRead trivial
      exact resumed.trans
        (chainFrom_breaks (rightRead.current_eq ▸ sign) staged (ih rightRead.tail))
  | highProduct left sign staged right high =>
      obtain ⟨middle, leftRead, rightRead⟩ := read.split
      have resumed := left.derives.parser_eq left.fits leftRead trivial
      have operand := right.derives.parser_eq right.fits rightRead.tail trivial
      exact resumed.trans
        (chainFrom_tooHigh (rightRead.current_eq ▸ sign) staged operand high)
  | @sum levels lefts rights sign operator left _ leftAdmits denotes staged _ ih =>
      obtain ⟨middle, leftRead, rightRead⟩ := read.split
      have signed : Denotes middle.current operator := rightRead.current_eq ▸ denotes
      have resumed := leftAdmits.derives.parser_eq leftAdmits.fits leftRead
        (signed.not_multiplicative staged)
      exact resumed.trans (chainFrom_breaks signed staged (ih rightRead.tail))
  | @highSum levels lefts rights sign operator left right leftAdmits denotes staged rightAdmits
      delimits high =>
      subst facing
      obtain ⟨middle, leftRead, rightRead⟩ := read.split
      have signed : Denotes middle.current operator := rightRead.current_eq ▸ denotes
      have resumed := leftAdmits.derives.parser_eq leftAdmits.fits leftRead
        (signed.not_multiplicative staged)
      have operand := rightAdmits.multiplicative_eq rightRead.tail delimits
      exact resumed.trans (chainFrom_tooHigh signed staged operand high)
  | nesting =>
      cases read.eq_of_nil
      subst facing
      rfl
  | target _ ih => exact bind_eq_error_iff.mpr (.inl (ih read))
  | value target isEquals _ ih =>
      obtain ⟨middle, targetRead, valueRead⟩ := read.split
      have equals : middle.current.kind = .equals := valueRead.current_eq ▸ isEquals
      refine bind_eq_error_iff.mpr (.inr ⟨_, middle, target.target_eq targetRead equals, ?_⟩)
      rw [assignmentFrom, accept_bind_apply, if_pos equals]
      exact bind_eq_error_iff.mpr (.inl (ih valueRead.tail))
  | highAssignment target isEquals value delimits high =>
      subst facing
      obtain ⟨middle, targetRead, valueRead⟩ := read.split
      have equals : middle.current.kind = .equals := valueRead.current_eq ▸ isEquals
      have parsed := value.derives.parser_eq value.fits valueRead.tail delimits
      refine bind_eq_error_iff.mpr (.inr ⟨_, middle, target.target_eq targetRead equals, ?_⟩)
      rw [assignmentFrom, accept_bind_apply, if_pos equals]
      refine bind_eq_error_iff.mpr (.inr ⟨_, after, parsed, ?_⟩)
      rw [if_neg (Nat.not_le.mpr high)]
      rfl

/-! ## Statements that fail -/

section Statements

variable {before after : TokenStream} {tokens : List Token} {error : SyntaxError}

theorem actionAt_keyword (constant : Bool) {token : Token}
    (keyword : token.kind = keywordKind constant) : actionAt token = declaration constant := by
  unfold actionAt
  cases constant <;> rw [keyword] <;> rfl

theorem actionAt_plain {token : Token} (plain : ∀ constant, token.kind ≠ keywordKind constant) :
    actionAt token = expressionStatement := by
  have noLet : token.kind ≠ .letKeyword := plain false
  have noConst : token.kind ≠ .constKeyword := plain true
  unfold actionAt
  split
  · exact absurd ‹_› noLet
  · exact absurd ‹_› noConst
  · rfl

theorem plain_of_inner {token : Token} (inner : separates token.kind = false) (constant : Bool) :
    token.kind ≠ keywordKind constant := by
  intro keyword
  rw [keyword] at inner
  cases constant <;> cases inner

/-- A declaration whose name has been read goes on with its value. -/
theorem declaration_named {constant : Bool} {keyword name : Token} {rest : List Token}
    (named : name.kind = .identifier) (read : Reads before (keyword :: name :: rest) after) :
    declaration constant before =
      (initializer constant keyword name >>= fun value =>
        pure (.declaration constant name.text name.span value)) before.advanced.advanced := by
  have nameCurrent := read.tail.current_eq
  rw [declaration, current_bind_apply, advance_bind_apply, expect_bind_apply, nameCurrent,
    if_pos named, read.current_eq]

/-- The value of a declaration is read behind its equals sign. -/
theorem initializer_valued {constant : Bool} {keyword name equals : Token} {rest : List Token}
    (isEquals : equals.kind = .equals) (read : Reads before (equals :: rest) after) :
    initializer constant keyword name before =
      (expression >>= fun value => expect .semicolon >>= fun _ => pure (some value))
        before.advanced := by
  have equalsCurrent := read.current_eq
  rw [initializer, accept_bind_apply, equalsCurrent, if_neg (by simp [isEquals]),
    if_neg Bool.false_ne_true, expect_bind_apply, equalsCurrent, if_pos isEquals]

theorem FailsStatement.actionAt_eq (fails : FailsStatement after.current tokens error)
    (read : Reads before tokens after) : actionAt before.current before = .error error after := by
  cases fails with
  | unnamed keyword unnamed =>
      rw [read.current_eq, actionAt_keyword _ keyword, declaration, current_bind_apply,
        advance_bind_apply, read.tail.eq_of_nil, expect_bind_apply, if_neg unnamed]
  | uninitialized keyword name semicolon =>
      have semicolonCurrent := read.tail.tail.current_eq
      have whole := read.covering_eq (List.cons_ne_nil _ _)
      cases read.tail.tail.tail.eq_of_nil
      rw [read.current_eq] at whole ⊢
      rw [actionAt_keyword true keyword, declaration_named name read]
      refine bind_eq_error_iff.mpr (.inl ?_)
      rw [initializer, accept_bind_apply, semicolonCurrent, if_pos semicolon, whole]
      rfl
  | unvalued keyword name noSemicolon noEquals =>
      have standing := read.tail.tail.eq_of_nil
      rw [read.current_eq, actionAt_keyword _ keyword, declaration_named name read, standing]
      refine bind_eq_error_iff.mpr (.inl ?_)
      rw [initializer, accept_bind_apply, if_neg noSemicolon, if_neg Bool.false_ne_true,
        expect_bind_apply, if_neg noEquals]
  | value keyword name equals value =>
      have failed := value.parser_eq read.tail.tail.tail rfl
      rw [read.current_eq, actionAt_keyword _ keyword, declaration_named name read]
      refine bind_eq_error_iff.mpr (.inl ?_)
      rw [initializer_valued equals read.tail.tail]
      exact bind_eq_error_iff.mpr (.inl failed)
  | unterminated keyword name equals value delimits noSemicolon =>
      have parsed := value.derives.parser_eq value.fits read.tail.tail.tail delimits
      rw [read.current_eq, actionAt_keyword _ keyword, declaration_named name read]
      refine bind_eq_error_iff.mpr (.inl ?_)
      rw [initializer_valued equals read.tail.tail]
      refine bind_eq_error_iff.mpr (.inr ⟨_, after, parsed, ?_⟩)
      rw [expect_bind_apply, if_neg noSemicolon]
  | expression value plain =>
      have started : ∀ constant, before.current.kind ≠ keywordKind constant := by
        cases tokens with
        | nil =>
            cases read.eq_of_nil
            exact fun constant keyword => plain constant keyword rfl
        | cons first rest =>
            rw [read.current_eq]
            exact plain_of_inner (value.inner first List.mem_cons_self)
      rw [actionAt_plain started]
      exact bind_eq_error_iff.mpr (.inl (value.parser_eq read rfl))
  | unended value delimits noSemicolon proper =>
      have parsed := value.derives.parser_eq value.fits read delimits
      rw [value.derives.actionAt_eq read]
      refine bind_eq_error_iff.mpr (.inr ⟨_, after, parsed, bind_eq_error_iff.mpr (.inl ?_)⟩)
      rw [terminator, accept_bind_apply, if_neg noSemicolon, if_neg Bool.false_ne_true,
        current_bind_apply, if_neg proper]
      rfl

theorem FailsStatement.statement_eq (fails : FailsStatement after.current tokens error)
    (read : Reads before tokens after) : statement before = .error error after := by
  rw [statement, current_bind_apply]
  exact bind_eq_error_iff.mpr (.inl (fails.actionAt_eq read))

theorem FailsStatements.statements_eq (fails : FailsStatements after.current tokens error)
    (read : Reads before tokens after) : statements before = .error error := by
  induction fails generalizing before with
  | @first tokens error fails unfinished =>
      have started : before.current.kind ≠ .endOfFile := by
        cases tokens with
        | nil =>
            cases read.eq_of_nil
            exact fun finished => unfinished finished rfl
        | cons first rest => exact read.unfinished (List.cons_ne_nil _ _) fails.proper
      exact statements_of_error started (fails.statement_eq read)
  | later first _ ih =>
      obtain ⟨middle, firstRead, restRead⟩ := read.split
      have proper := first.proper fun value => value.derives.proper
      have parsed := (DerivesBefore.closed first).statement_eq first.ne_nil firstRead
      rw [statements_of_ok (firstRead.unfinished first.ne_nil proper) parsed, ih restRead]
      rfl

/-- A program fails just as the rules for failures say. -/
theorem statements_eq_error_iff {stream : TokenStream} :
    statements stream = .error error ↔
      ∃ tokens after, Reads stream tokens after ∧ FailsStatements after.current tokens error :=
  ⟨statements_blames, fun ⟨_, _, read, fails⟩ => fails.statements_eq read⟩

end Statements

end CalcScript.Grammar
