import CalcScript.Proofs.Grammar.Reading
import CalcScript.Proofs.Outcomes

/-!
# What a parser reads is derived

A parser that succeeds has read a run of tokens that derives its result. The loop that extends a
chain keeps the invariant that the tokens read so far derive the chain so far.
-/

set_option autoImplicit false

namespace CalcScript.Grammar

open CalcScript.Parser

/-- The tokens that a parser reads mean its result. -/
def Sound (parser : Parser Expr) (Meaning : List Token → Expr → Prop) : Prop :=
  ∀ {before after : TokenStream} {tree : Expr}, parser before = .ok tree after →
    ∃ tokens, Reads before tokens after ∧ Meaning tokens tree

/-- A leaf is never too high. -/
theorem one_le_maxHeight : 1 ≤ maxHeight := by decide

theorem primary_sound {nested : Parser Expr} {levels : Nat}
    (nestedSound : Sound nested (Admits .expression levels)) :
    Sound (primary nested) (Admits .primary levels) := by
  intro before after tree parsed
  simp only [primary, current_bind_apply] at parsed
  cases kind : before.current.kind <;> simp only [kind] at parsed
  case identifier =>
    cases parsed
    exact ⟨[before.current], .advanced (by simp [kind]), .name kind, one_le_maxHeight⟩
  case number =>
    cases numeral : Number.read? before.current.text <;> simp only [numeral] at parsed
    case none => cases parsed
    case some value =>
      cases parsed
      exact ⟨[before.current], .advanced (by simp [kind]), .number kind numeral, one_le_maxHeight⟩
  case openParen =>
    rw [advance_bind_apply] at parsed
    obtain ⟨inner, middle, innerParsed, rest⟩ := bind_eq_ok_iff.mp parsed
    obtain ⟨tokens, innerRead, innerAdmitted⟩ := nestedSound innerParsed
    rw [expect_bind_apply] at rest
    split at rest
    case isTrue closes =>
      cases rest
      have opened := Reads.cons (by simp [kind]) innerRead
      exact ⟨_, opened.trans (.advanced (by simp [closes])),
        .group kind innerAdmitted.derives closes, innerAdmitted.fits⟩
    case isFalse => cases rest
  all_goals cases parsed

section Chains

variable {stage : Operator → Bool} {operand : Parser Expr}
  {Operand Chain : List Token → Expr → Prop}

/-- The loop of a chain. `Chain` holds of what was read before the loop, and every link keeps it. -/
theorem chainFrom_sound (operandSound : Sound operand Operand)
    (link : ∀ {lefts rights : List Token} {sign : Token} {operator : Operator} {left right : Expr},
      Chain lefts left → Denotes sign operator → stage operator = true → Operand rights right →
        (Expr.linked operator left right).height ≤ maxHeight →
        Chain (lefts ++ sign :: rights) (.linked operator left right))
    {lefts : List Token} {left : Expr} (leftChain : Chain lefts left)
    {before after : TokenStream} {tree : Expr}
    (parsed : chainFrom stage operand left before = .ok tree after) :
    ∃ tokens, Reads before tokens after ∧ Chain (lefts ++ tokens) tree := by
  -- every link makes the chain higher, so the height that is left bounds the rounds of the loop
  induction measure : maxHeight - left.height using Nat.strongRecOn
    generalizing left lefts before with
  | ind room ih =>
      rw [chainFrom, current_bind_apply] at parsed
      cases sign : operatorOf? stage before.current with
      | none =>
          simp only [sign] at parsed
          cases parsed
          exact ⟨[], .refl _, by simpa using leftChain⟩
      | some operator =>
          simp only [sign, advance_bind_apply] at parsed
          obtain ⟨denotes, staged⟩ := operatorOf?_eq_some_iff.mp sign
          obtain ⟨right, middle, rightParsed, rest⟩ := bind_eq_ok_iff.mp parsed
          obtain ⟨rights, rightRead, rightOperand⟩ := operandSound rightParsed
          split at rest
          case isTrue fits =>
            have longer := link leftChain denotes staged rightOperand fits
            have shorter : maxHeight - (Expr.linked operator left right).height < room :=
              measure ▸ less_room_of_linked fits
            obtain ⟨more, moreRead, chain⟩ := ih _ shorter longer rest rfl
            refine ⟨before.current :: rights ++ more, ?_, by simpa using chain⟩
            exact (Reads.cons (by simp [denotes.1]) rightRead).trans moreRead
          case isFalse => cases rest

theorem chain_sound (operandSound : Sound operand Operand)
    (single : ∀ {tokens : List Token} {tree : Expr}, Operand tokens tree → Chain tokens tree)
    (link : ∀ {lefts rights : List Token} {sign : Token} {operator : Operator} {left right : Expr},
      Chain lefts left → Denotes sign operator → stage operator = true → Operand rights right →
        (Expr.linked operator left right).height ≤ maxHeight →
        Chain (lefts ++ sign :: rights) (.linked operator left right)) :
    Sound (chain stage operand) Chain := by
  intro before after tree parsed
  obtain ⟨first, middle, firstParsed, rest⟩ := bind_eq_ok_iff.mp parsed
  obtain ⟨tokens, firstRead, firstOperand⟩ := operandSound firstParsed
  obtain ⟨more, moreRead, whole⟩ := chainFrom_sound operandSound link (single firstOperand) rest
  exact ⟨tokens ++ more, firstRead.trans moreRead, whole⟩

end Chains

section Nested

variable {nested : Parser Expr} {levels : Nat}

theorem multiplicative_sound (nestedSound : Sound nested (Admits .expression levels)) :
    Sound (multiplicative nested) (Admits .multiplicative levels) :=
  chain_sound (primary_sound nestedSound) (fun operand => ⟨.factor operand.derives, operand.fits⟩)
    fun left sign staged right fits => ⟨.product left.derives sign staged right.derives, fits⟩

theorem additive_sound (nestedSound : Sound nested (Admits .expression levels)) :
    Sound (additive nested) (Admits .additive levels) :=
  chain_sound (multiplicative_sound nestedSound)
    (fun operand => ⟨.term operand.derives, operand.fits⟩)
    fun left sign staged right fits => ⟨.sum left.derives sign staged right.derives, fits⟩

theorem expressionOver_sound (nestedSound : Sound nested (Admits .expression levels)) :
    Sound (expressionOver nested) (Admits .expression (levels + 1)) := by
  intro before after tree parsed
  obtain ⟨target, middle, targetParsed, rest⟩ := bind_eq_ok_iff.mp parsed
  obtain ⟨targets, targetRead, targetAdmitted⟩ := additive_sound nestedSound targetParsed
  rw [assignmentFrom, accept_bind_apply] at rest
  split at rest
  case isTrue equals =>
    obtain ⟨value, last, valueParsed, final⟩ := bind_eq_ok_iff.mp rest
    obtain ⟨values, valueRead, valueAdmitted⟩ := nestedSound valueParsed
    split at final
    case isTrue fits =>
      cases final
      exact ⟨_, targetRead.trans (.cons (by simp [equals]) valueRead),
        .assignment targetAdmitted.derives equals valueAdmitted.derives, fits⟩
    case isFalse => cases final
  case isFalse =>
    cases rest
    exact ⟨targets, targetRead, .plain targetAdmitted.derives, targetAdmitted.fits⟩

end Nested

theorem expressionWithin_sound (levels : Nat) :
    Sound (expressionWithin levels) (Admits .expression levels) := by
  induction levels with
  | zero =>
      intro before after tree parsed
      cases parsed
  | succ levels ih => exact expressionOver_sound ih

theorem expression_sound : Sound expression Limited := expressionWithin_sound maxNesting

/-! ## Statements -/

theorem declaration_sound (constant : Bool) {before after : TokenStream} {action : Action}
    (keyword : before.current.kind = keywordKind constant)
    (parsed : declaration constant before = .ok action after) :
    ∃ tokens, Reads before tokens after ∧ DerivesAction Limited tokens action := by
  have started : before.current.kind ≠ .endOfFile := by
    rw [keyword]
    exact keywordKind_ne_endOfFile constant
  rw [declaration, current_bind_apply, advance_bind_apply, expect_bind_apply] at parsed
  split at parsed
  case isFalse => cases parsed
  case isTrue name =>
    have named := Reads.cons started (.advanced (by simp [name]))
    obtain ⟨value, last, valueParsed, final⟩ := bind_eq_ok_iff.mp parsed
    cases final
    rw [initializer, accept_bind_apply] at valueParsed
    split at valueParsed
    case isTrue semicolon =>
      cases constant with
      | true => cases valueParsed
      | false =>
          cases valueParsed
          exact ⟨_, named.trans (.advanced (by simp [semicolon])), .bare keyword name semicolon⟩
    case isFalse =>
      rw [if_neg Bool.false_ne_true, expect_bind_apply] at valueParsed
      split at valueParsed
      case isFalse => cases valueParsed
      case isTrue equals =>
        obtain ⟨tree, middle, treeParsed, rest⟩ := bind_eq_ok_iff.mp valueParsed
        obtain ⟨tokens, treeRead, treeLimited⟩ := expression_sound treeParsed
        rw [expect_bind_apply] at rest
        split at rest
        case isFalse => cases rest
        case isTrue semicolon =>
          cases rest
          have valued := Reads.cons (by simp [equals])
            (treeRead.trans (.advanced (by simp [semicolon])))
          exact ⟨_, named.trans valued, .initialized keyword name equals treeLimited semicolon⟩

theorem expressionStatement_sound {before after : TokenStream} {action : Action}
    (parsed : expressionStatement before = .ok action after) :
    ∃ tokens, Reads before tokens after ∧ DerivesBefore Limited after.current tokens action := by
  obtain ⟨value, middle, valueParsed, rest⟩ := bind_eq_ok_iff.mp parsed
  obtain ⟨tokens, valueRead, valueLimited⟩ := expression_sound valueParsed
  obtain ⟨_, last, ended, final⟩ := bind_eq_ok_iff.mp rest
  cases final
  rw [terminator, accept_bind_apply] at ended
  split at ended
  case isTrue semicolon =>
    cases ended
    exact ⟨_, valueRead.trans (.advanced (by simp [semicolon])),
      .closed (.expression valueLimited semicolon)⟩
  case isFalse =>
    rw [if_neg Bool.false_ne_true, current_bind_apply] at ended
    split at ended
    case isTrue stops =>
      cases ended
      exact ⟨tokens, valueRead, .last valueLimited stops⟩
    case isFalse => cases ended

theorem actionAt_sound {before after : TokenStream} {action : Action}
    (parsed : actionAt before.current before = .ok action after) :
    ∃ tokens, Reads before tokens after ∧ DerivesBefore Limited after.current tokens action := by
  unfold actionAt at parsed
  cases kind : before.current.kind <;> simp only [kind] at parsed
  case letKeyword =>
    obtain ⟨tokens, read, derived⟩ := declaration_sound false kind parsed
    exact ⟨tokens, read, .closed derived⟩
  case constKeyword =>
    obtain ⟨tokens, read, derived⟩ := declaration_sound true kind parsed
    exact ⟨tokens, read, .closed derived⟩
  all_goals exact expressionStatement_sound parsed

theorem statement_sound {before after : TokenStream} {result : Statement}
    (parsed : statement before = .ok result after) :
    ∃ tokens action, Reads before tokens after ∧ result = ⟨action, covering tokens⟩ ∧
      DerivesBefore Limited after.current tokens action := by
  rw [statement, current_bind_apply] at parsed
  obtain ⟨action, last, actionParsed, final⟩ := bind_eq_ok_iff.mp parsed
  cases final
  obtain ⟨tokens, read, derived⟩ := actionAt_sound actionParsed
  have nonempty : tokens ≠ [] := by
    cases derived with
    | closed closed => exact closed.ne_nil
    | last value => exact value.derives.ne_nil
  refine ⟨tokens, action, read, ?_, derived⟩
  rw [read.covering_eq nonempty]

/-- The statements that a stream holds are derived by its tokens up to the first end of file. -/
theorem statements_sound {stream : TokenStream} {results : List Statement}
    (parsed : statements stream = .ok results) :
    DerivesStatements Limited
      (stream.remaining.takeWhile fun token => token.kind ≠ .endOfFile) results := by
  induction stream using statements.induct generalizing results with
  | case1 stream finished =>
      cases (statements_at_end finished).symm.trans parsed
      rw [takeWhile_eq_nil_iff.mpr finished]
      exact .nil
  | case2 stream unfinished error after failed =>
      cases (statements_of_error unfinished failed).symm.trans parsed
  | case3 stream unfinished first after read shorter ih =>
      rw [statements_of_ok unfinished read] at parsed
      obtain ⟨tokens, action, firstRead, rfl, derived⟩ := statement_sound read
      obtain ⟨rest, restParsed, rfl⟩ := exists_of_map_eq_ok parsed
      cases derived with
      | closed closed =>
          rw [firstRead.takeWhile_eq (closed.proper fun value => value.derives.proper)]
          exact .cons closed (ih restParsed)
      | last value finished =>
          cases (statements_at_end finished).symm.trans restParsed
          rw [firstRead.takeWhile_eq value.derives.proper, takeWhile_eq_nil_iff.mpr finished,
            List.append_nil]
          exact .last value

end CalcScript.Grammar
