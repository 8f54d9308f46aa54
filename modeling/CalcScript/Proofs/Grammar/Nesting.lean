import CalcScript.Proofs.Grammar.Blame

/-!
# Exact limits

An error about the nesting stands where an expression would begin inside as many levels as the limit
allows, all of them still open. An error about the height is that of a compound which has just been
read and is too high by one. Which of the two a program is rejected for is decided by the first
check that fails when its derivation is read from left to right.
-/

set_option autoImplicit false

namespace CalcScript.Grammar

open CalcScript.Parser

/-! ## Open levels -/

/-- Tokens that break off where an expression would begin, inside so many parentheses and right-hand
sides that are still open. -/
inductive Opens : Stage → Nat → List Token → Prop where
  | here : Opens .expression 0 []
  | group {depth : Nat} {opening : Token} {tokens : List Token} :
      opening.kind = .openParen → Opens .expression depth tokens →
      Opens .primary (depth + 1) (opening :: tokens)
  | factor {depth : Nat} {tokens : List Token} :
      Opens .primary depth tokens → Opens .multiplicative depth tokens
  | product {depth levels : Nat} {lefts rights : List Token} {sign : Token} {operator : Operator}
      {left : Expr} :
      Derives .multiplicative levels lefts left → Denotes sign operator →
      operator.isMultiplicative = true → Opens .primary depth rights →
      Opens .multiplicative depth (lefts ++ sign :: rights)
  | term {depth : Nat} {tokens : List Token} :
      Opens .multiplicative depth tokens → Opens .additive depth tokens
  | sum {depth levels : Nat} {lefts rights : List Token} {sign : Token} {operator : Operator}
      {left : Expr} :
      Derives .additive levels lefts left → Denotes sign operator →
      operator.isAdditive = true → Opens .multiplicative depth rights →
      Opens .additive depth (lefts ++ sign :: rights)
  | target {depth : Nat} {tokens : List Token} :
      Opens .additive depth tokens → Opens .expression depth tokens
  | value {depth levels : Nat} {targets values : List Token} {equals : Token} {target : Expr} :
      Derives .additive levels targets target → equals.kind = .equals →
      Opens .expression depth values →
      Opens .expression (depth + 1) (targets ++ equals :: values)

/-- The levels that are open behind a token. A closing parenthesis ends its group together with the
right-hand sides inside. -/
def levelsBehind (levels : List TokenKind) (token : Token) : List TokenKind :=
  match token.kind with
  | .openParen => .openParen :: levels
  | .equals => .equals :: levels
  | .closeParen => (levels.dropWhile (· = .equals)).tail
  | _ => levels

/-- The levels that tokens leave open besides those that are open in front of them, the innermost
first. -/
def openLevels (levels : List TokenKind) (tokens : List Token) : List TokenKind :=
  tokens.foldl levelsBehind levels

@[simp]
theorem openLevels_nil (levels : List TokenKind) : openLevels levels [] = levels := rfl

@[simp]
theorem openLevels_cons (levels : List TokenKind) (token : Token) (tokens : List Token) :
    openLevels levels (token :: tokens) = openLevels (levelsBehind levels token) tokens := rfl

@[simp]
theorem openLevels_append (levels : List TokenKind) (first second : List Token) :
    openLevels levels (first ++ second) = openLevels (openLevels levels first) second :=
  List.foldl_append

/-- What is complete leaves no group open, and an operand leaves no right-hand side open either. -/
theorem Derives.openLevels_eq {stage : Stage} {limit : Nat} {tokens : List Token} {tree : Expr}
    (derived : Derives stage limit tokens tree) (levels : List TokenKind) :
    ∃ count, openLevels levels tokens = List.replicate count .equals ++ levels ∧
      (stage ≠ .expression → count = 0) := by
  induction derived generalizing levels with
  | name kind | number kind => exact ⟨0, by simp [levelsBehind, kind], fun _ => rfl⟩
  | group opens _ closes ih =>
      obtain ⟨count, inner, -⟩ := ih (.openParen :: levels)
      refine ⟨0, ?_, fun _ => rfl⟩
      simp [levelsBehind, opens, closes, inner]
  | factor _ ih | term _ ih =>
      obtain ⟨count, operand, noneOpen⟩ := ih levels
      exact ⟨count, operand, fun _ => noneOpen nofun⟩
  | product _ sign _ _ leftIH rightIH | sum _ sign _ _ leftIH rightIH =>
      obtain ⟨_, left, noneLeft⟩ := leftIH levels
      obtain ⟨_, right, noneRight⟩ := rightIH levels
      rw [noneLeft nofun] at left
      rw [noneRight nofun] at right
      exact ⟨0, by simpa [levelsBehind, sign.1, left] using right, fun _ => rfl⟩
  | plain _ ih =>
      obtain ⟨count, operand, -⟩ := ih levels
      exact ⟨count, operand, fun other => absurd rfl other⟩
  | assignment _ equals _ targetIH valueIH =>
      obtain ⟨_, target, noneOpen⟩ := targetIH levels
      obtain ⟨count, value, -⟩ := valueIH (.equals :: levels)
      rw [noneOpen nofun] at target
      refine ⟨count + 1, ?_, fun other => absurd rfl other⟩
      simp [levelsBehind, equals, target, value, List.replicate_succ']

/-- Operands leave no levels open. -/
theorem Derives.openLevels_operand {stage : Stage} {limit : Nat} {tokens : List Token} {tree : Expr}
    (derived : Derives stage limit tokens tree) (operand : stage ≠ .expression)
    (levels : List TokenKind) : openLevels levels tokens = levels := by
  obtain ⟨count, whole, noneOpen⟩ := derived.openLevels_eq levels
  rw [whole, noneOpen operand]
  rfl

/-- As many levels are open as a count over the tokens finds. -/
theorem Opens.exists_openLevels {stage : Stage} {depth : Nat} {tokens : List Token}
    (opens : Opens stage depth tokens) (levels : List TokenKind) :
    ∃ more, openLevels levels tokens = more ++ levels ∧ more.length = depth := by
  induction opens generalizing levels with
  | here => exact ⟨[], rfl, rfl⟩
  | group opening _ ih =>
      obtain ⟨more, inner, size⟩ := ih (.openParen :: levels)
      exact ⟨more ++ [.openParen], by simp [levelsBehind, opening, inner], by simp [size]⟩
  | factor _ ih | term _ ih | target _ ih => exact ih levels
  | product left sign _ _ ih | sum left sign _ _ ih =>
      obtain ⟨more, right, size⟩ := ih levels
      refine ⟨more, ?_, size⟩
      simpa [levelsBehind, sign.1, left.openLevels_operand nofun] using right
  | value target equals _ ih =>
      obtain ⟨more, value, size⟩ := ih (.equals :: levels)
      refine ⟨more ++ [.equals], ?_, by simp [size]⟩
      simp [levelsBehind, equals, target.openLevels_operand nofun, value]

theorem Opens.length_openLevels {depth : Nat} {tokens : List Token}
    (opens : Opens .expression depth tokens) : (openLevels [] tokens).length = depth := by
  obtain ⟨more, whole, size⟩ := opens.exists_openLevels []
  rw [whole, List.append_nil, size]

/-! ## What an error about a limit means -/

variable {next : Token} {tokens : List Token} {error : SyntaxError}

/-- The levels around a stage that may enter so many more until none are left. -/
def Stage.levelsAround (levels : Nat) : Stage → Nat
  | expression => levels
  | _ => levels + 1

/-- An error about the nesting stands inside as many open levels as there were to enter. -/
theorem Fails.opens {stage : Stage} {levels : Nat} (fails : Fails next stage levels tokens error)
    (deep : error.fault = .nestedTooDeep maxNesting) :
    Opens stage (stage.levelsAround levels) tokens ∧ error.span = next.span := by
  induction fails with
  | operand | unclosed => cases deep
  | highProduct | highSum | highAssignment => simp [tooHigh, maxHeight, maxNesting] at deep
  | nesting => exact ⟨.here, rfl⟩
  | group opening _ ih => exact (ih deep).imp_left (.group opening)
  | factor _ ih => exact (ih deep).imp_left .factor
  | product left sign staged _ ih =>
      exact (ih deep).imp_left (.product left.derives sign staged)
  | term _ ih => exact (ih deep).imp_left .term
  | sum left sign staged _ ih => exact (ih deep).imp_left (.sum left.derives sign staged)
  | target _ ih => exact (ih deep).imp_left .target
  | value target equals _ ih => exact (ih deep).imp_left (.value target.derives equals)

/-- Tokens end with those of a compound that is too high by one, and an error is placed on it. -/
def EndsTooHigh (tokens : List Token) (error : SyntaxError) : Prop :=
  ∃ front compound stage levels tree, tokens = front ++ compound ∧
    Derives stage levels compound tree ∧ tree.IsCompound ∧ tree.height = maxHeight + 1 ∧
    error.span = tree.span

theorem EndsTooHigh.behind (ends : EndsTooHigh tokens error) (front : List Token) :
    EndsTooHigh (front ++ tokens) error := by
  obtain ⟨more, compound, stage, levels, tree, rfl, rest⟩ := ends
  exact ⟨front ++ more, compound, stage, levels, tree, by simp, rest⟩

theorem Derives.endsTooHigh {stage : Stage} {levels : Nat} {tree : Expr}
    (derived : Derives stage levels tokens tree)
    (just : (Check.node tree).JustFails maxNesting) : EndsTooHigh tokens (tooHigh tree) :=
  ⟨[], tokens, stage, levels, tree, rfl, derived, just.1, just.2, rfl⟩

/-- An error about the height is that of what was read last. -/
theorem Fails.endsTooHigh {stage : Stage} {levels : Nat}
    (fails : Fails next stage levels tokens error)
    (high : error.fault = .nestedTooDeep maxHeight) : EndsTooHigh tokens error := by
  induction fails with
  | operand | unclosed => cases high
  | nesting => simp [maxHeight, maxNesting] at high
  | factor _ ih | term _ ih | target _ ih => exact ih high
  | @group _ opening _ _ _ _ ih => exact (ih high).behind [opening]
  | @product _ lefts _ sign _ _ _ _ _ _ _ ih | @sum _ lefts _ sign _ _ _ _ _ _ _ ih
  | @value _ lefts _ sign _ _ _ _ _ ih =>
      have ends := (ih high).behind (lefts ++ [sign])
      rwa [List.append_assoc] at ends
  | highProduct left sign staged right unfit =>
      exact (Derives.product left.derives sign staged right.derives).endsTooHigh
        (justFails_linked left.fits right.fits unfit)
  | highSum left sign staged right _ unfit =>
      exact (Derives.sum left.derives sign staged right.derives).endsTooHigh
        (justFails_linked left.fits right.fits unfit)
  | highAssignment target equals value _ unfit =>
      exact (Derives.assignment target.derives equals value.derives).endsTooHigh
        (justFails_assigned target.fits value.fits unfit)

theorem Fails.limit {stage : Stage} {levels : Nat} (fails : Fails next stage levels tokens error)
    {limit : Nat} (deep : error.fault = .nestedTooDeep limit) :
    limit = maxNesting ∨ limit = maxHeight := by
  induction fails with
  | operand | unclosed => cases deep
  | highProduct | highSum | highAssignment =>
      cases deep
      exact .inr rfl
  | nesting =>
      cases deep
      exact .inl rfl
  | group _ _ ih | factor _ ih | product _ _ _ _ ih | term _ ih | sum _ _ _ _ ih | target _ ih
  | value _ _ _ ih => exact ih deep

/-- What a statement has in front of its expression: nothing, or the start of a declaration. -/
inductive Introduces : List Token → Prop where
  | nothing : Introduces []
  | declaration {constant : Bool} {keyword name equals : Token} :
      keyword.kind = keywordKind constant → name.kind = .identifier → equals.kind = .equals →
      Introduces [keyword, name, equals]

/-- Only an expression can exceed a limit. -/
theorem FailsStatements.exists_expression (fails : FailsStatements next tokens error) {limit : Nat}
    (deep : error.fault = .nestedTooDeep limit) :
    ∃ complete front rest, tokens = complete ++ (front ++ rest) ∧ Complete complete ∧
      Introduces front ∧ Fails next .expression maxNesting rest error := by
  obtain ⟨complete, rest, rfl, statements, fails⟩ := fails.exists_last
  cases fails with
  | unnamed | uninitialized | unvalued | unterminated | unended => cases deep
  | value keyword name equals value =>
      exact ⟨complete, _, _, rfl, statements, .declaration keyword name equals, value⟩
  | expression value => exact ⟨complete, [], _, rfl, statements, .nothing, value⟩

/-! ## Programs -/

theorem ofTokens_eq_error_iff :
    Program.ofTokens tokens = .error error ↔
      ∃ after, BreaksOff (TokenStream.ofList tokens) error after := by
  rw [← statements_eq_error_iff_breaksOff, Program.ofTokens]
  cases statements (TokenStream.ofList tokens) <;> simp [Except.map]

/-- The checks that tokens come by in any derivation that leaves the limits aside decide what
becomes of them: if all pass they form their program, and else they are rejected for the first that
fails. An error about a limit, on the other hand, is one that breaks off inside 128 open levels or
behind a compound of height 1025, and there are no other limits. -/
theorem ofTokens_limits_exact (tokens : List Token) :
    (∀ results, DerivesStatements Unlimited
        (tokens.takeWhile fun token => token.kind ≠ .endOfFile) results ↔
      ∃ checks, WalksStatements (tokens.takeWhile fun token => token.kind ≠ .endOfFile) results
        checks) ∧
    (∀ results checks, WalksStatements (tokens.takeWhile fun token => token.kind ≠ .endOfFile)
        results checks →
      (firstFailed? 128 checks = none ↔ DerivesStatements Limited
        (tokens.takeWhile fun token => token.kind ≠ .endOfFile) results) ∧
      ∀ check, firstFailed? 128 checks = some check →
        Program.ofTokens tokens = .error check.error ∧ check.JustFails 128) ∧
    (∀ error, Program.ofTokens tokens = .error error ↔
      ∃ after, BreaksOff (TokenStream.ofList tokens) error after) ∧
    ∀ error after limit, BreaksOff (TokenStream.ofList tokens) error after →
      error.fault = .nestedTooDeep limit →
      ∃ complete front rest, Reads (TokenStream.ofList tokens) (complete ++ (front ++ rest)) after ∧
        Complete complete ∧ Introduces front ∧
        (limit = 128 ∧ error.span = after.current.span ∧ Opens .expression 128 rest ∧
            (openLevels [] rest).length = 128 ∨
          limit = 1024 ∧ EndsTooHigh rest error) := by
  refine ⟨fun results => derives_unlimited_iff_walks, fun results checks walks => ?_,
    fun error => ofTokens_eq_error_iff, fun error after limit breaks deep => ?_⟩
  · obtain ⟨last, read, finished⟩ := exists_reads_to_end (TokenStream.ofList tokens)
    cases walks.verdict read finished with
    | kept passed limited =>
        refine ⟨iff_of_true passed limited, fun check failed => ?_⟩
        cases passed.symm.trans failed
    | exceeded failed just arises =>
        obtain ⟨front, middle, frontRead, fails⟩ := arises
        have rejected := fails.statements_eq frontRead
        refine ⟨iff_of_false (by simp [maxNesting] at failed; simp [failed]) fun limited => ?_,
          fun other same => ?_⟩
        · cases (limited.statements_eq read finished).symm.trans rejected
        · cases failed.symm.trans same
          exact ⟨by rw [Program.ofTokens, rejected]; rfl, just⟩
  · obtain ⟨read, reads, fails⟩ := breaks.blames
    obtain ⟨complete, front, rest, rfl, statements, introduces, value⟩ :=
      fails.exists_expression deep
    refine ⟨complete, front, rest, reads, statements, introduces, ?_⟩
    rcases value.limit deep with rfl | rfl
    · obtain ⟨opens, place⟩ := value.opens deep
      exact .inl ⟨rfl, place, opens, opens.length_openLevels⟩
    · exact .inr ⟨rfl, value.endsTooHigh deep⟩

end CalcScript.Grammar
