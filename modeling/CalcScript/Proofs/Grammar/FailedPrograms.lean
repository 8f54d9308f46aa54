import CalcScript.Proofs.Grammar.Failures

/-!
# How programs fail

The statements before the one that breaks off are complete, and the rules for the one that does
follow the rules for statements. No token after the one in front of which a program breaks off has
been looked at, and none that was read is an end of file.
-/

set_option autoImplicit false

namespace CalcScript.Grammar

open CalcScript.Parser

/-- The error of a statement that breaks off in front of a token. -/
inductive FailsStatement (next : Token) : List Token → SyntaxError → Prop where
  | unnamed {constant : Bool} {keyword : Token} :
      keyword.kind = keywordKind constant → next.kind ≠ .identifier →
      FailsStatement next [keyword] ⟨.expectedToken .identifier next, next.span⟩
  | uninitialized {keyword name semicolon : Token} :
      keyword.kind = .constKeyword → name.kind = .identifier → semicolon.kind = .semicolon →
      FailsStatement next [keyword, name, semicolon]
        ⟨.uninitializedConstant name.text, covering [keyword, name, semicolon]⟩
  | unvalued {constant : Bool} {keyword name : Token} :
      keyword.kind = keywordKind constant → name.kind = .identifier →
      next.kind ≠ .semicolon → next.kind ≠ .equals →
      FailsStatement next [keyword, name] ⟨.expectedToken .equals next, next.span⟩
  | value {constant : Bool} {keyword name equals : Token} {tokens : List Token}
      {error : SyntaxError} :
      keyword.kind = keywordKind constant → name.kind = .identifier → equals.kind = .equals →
      Fails next .expression maxNesting tokens error →
      FailsStatement next (keyword :: name :: equals :: tokens) error
  | unterminated {constant : Bool} {keyword name equals : Token} {tokens : List Token}
      {value : Expr} :
      keyword.kind = keywordKind constant → name.kind = .identifier → equals.kind = .equals →
      Limited tokens value → Stage.expression.Delimits next → next.kind ≠ .semicolon →
      FailsStatement next (keyword :: name :: equals :: tokens)
        ⟨.expectedToken .semicolon next, next.span⟩
  | expression {tokens : List Token} {error : SyntaxError} :
      Fails next .expression maxNesting tokens error →
      (∀ constant, next.kind = keywordKind constant → tokens ≠ []) →
      FailsStatement next tokens error
  | unended {tokens : List Token} {value : Expr} :
      Limited tokens value → Stage.expression.Delimits next →
      next.kind ≠ .semicolon → next.kind ≠ .endOfFile →
      FailsStatement next tokens ⟨.expectedToken .semicolon next, next.span⟩

/-- The error of a program whose first statements are complete. -/
inductive FailsStatements (next : Token) : List Token → SyntaxError → Prop where
  | first {tokens : List Token} {error : SyntaxError} :
      FailsStatement next tokens error → (next.kind = .endOfFile → tokens ≠ []) →
      FailsStatements next tokens error
  | later {first rest : List Token} {action : Action} {error : SyntaxError} :
      DerivesAction Limited first action → FailsStatements next rest error →
      FailsStatements next (first ++ rest) error

variable {next : Token} {tokens : List Token} {error : SyntaxError}

theorem FailsStatement.proper (fails : FailsStatement next tokens error) :
    ∀ token ∈ tokens, token.kind ≠ .endOfFile := by
  cases fails with
  | unnamed keyword => simp [keyword, keywordKind_ne_endOfFile]
  | uninitialized keyword name semicolon => simp [keyword, name, semicolon]
  | unvalued keyword name => simp [keyword, name, keywordKind_ne_endOfFile]
  | value keyword name equals value =>
      simpa [keyword, name, equals, keywordKind_ne_endOfFile] using value.proper
  | unterminated keyword name equals value =>
      simpa [keyword, name, equals, keywordKind_ne_endOfFile] using value.derives.proper
  | expression value => exact value.proper
  | unended value => exact value.derives.proper

theorem FailsStatements.proper (fails : FailsStatements next tokens error) :
    ∀ token ∈ tokens, token.kind ≠ .endOfFile := by
  induction fails with
  | first fails => exact fails.proper
  | later first _ ih =>
      intro token among
      rcases List.mem_append.mp among with inFirst | inRest
      · exact first.proper (fun value => value.derives.proper) token inFirst
      · exact ih token inRest

variable {before after stream : TokenStream}

theorem declaration_blames (constant : Bool) (keyword : before.current.kind = keywordKind constant)
    (failed : declaration constant before = .error error after) :
    ∃ tokens, Reads before tokens after ∧ FailsStatement after.current tokens error := by
  have started : before.current.kind ≠ .endOfFile := by
    rw [keyword]
    exact keywordKind_ne_endOfFile constant
  rw [declaration, current_bind_apply, advance_bind_apply, expect_bind_apply] at failed
  split at failed
  case isFalse unnamed =>
    cases failed
    exact ⟨_, .advanced started, .unnamed keyword unnamed⟩
  case isTrue name =>
    have named := Reads.cons started (.advanced (by simp [name]))
    rcases bind_eq_error_iff.mp failed with valueFailed | ⟨_, _, _, final⟩
    case inr => cases final
    rw [initializer, accept_bind_apply] at valueFailed
    split at valueFailed
    case isTrue semicolon =>
      cases constant with
      | false => cases valueFailed
      | true =>
          cases valueFailed
          exact ⟨_, named.trans (.advanced (by simp [semicolon])),
            .uninitialized keyword name semicolon⟩
    case isFalse noSemicolon =>
      rw [if_neg Bool.false_ne_true, expect_bind_apply] at valueFailed
      split at valueFailed
      case isFalse noEquals =>
        cases valueFailed
        exact ⟨_, named, .unvalued keyword name noSemicolon noEquals⟩
      case isTrue equals =>
        have passed := named.trans (.advanced (by simp [equals]))
        rcases bind_eq_error_iff.mp valueFailed with treeFailed | ⟨tree, middle, treeParsed, rest⟩
        · obtain ⟨tokens, treeRead, failure⟩ := expression_blames treeFailed
          exact ⟨_, passed.trans treeRead, .value keyword name equals failure⟩
        · obtain ⟨tokens, treeRead, treeLimited⟩ := expression_sound treeParsed
          rw [expect_bind_apply] at rest
          split at rest
          case isTrue => cases rest
          case isFalse unterminated =>
            cases rest
            exact ⟨_, passed.trans treeRead, .unterminated keyword name equals treeLimited
              (expression_ends treeParsed) unterminated⟩

theorem expressionStatement_blames
    (plain : ∀ constant, before.current.kind ≠ keywordKind constant)
    (failed : expressionStatement before = .error error after) :
    ∃ tokens, Reads before tokens after ∧ FailsStatement after.current tokens error := by
  rcases bind_eq_error_iff.mp failed with valueFailed | ⟨value, middle, valueParsed, rest⟩
  · obtain ⟨tokens, read, failure⟩ := expression_blames valueFailed
    refine ⟨tokens, read, .expression failure fun constant keyword empty => ?_⟩
    subst empty
    rw [← read.eq_of_nil] at keyword
    exact plain constant keyword
  · obtain ⟨tokens, read, limited⟩ := expression_sound valueParsed
    rcases bind_eq_error_iff.mp rest with unended | ⟨_, _, _, final⟩
    case inr => cases final
    rw [terminator, accept_bind_apply] at unended
    split at unended
    case isTrue => cases unended
    case isFalse noSemicolon =>
      rw [if_neg Bool.false_ne_true, current_bind_apply] at unended
      split at unended
      case isTrue => cases unended
      case isFalse proper =>
        cases unended
        exact ⟨tokens, read, .unended limited (expression_ends valueParsed) noSemicolon proper⟩

theorem statement_blames (failed : statement before = .error error after) :
    ∃ tokens, Reads before tokens after ∧ FailsStatement after.current tokens error := by
  rw [statement, current_bind_apply] at failed
  rcases bind_eq_error_iff.mp failed with actionFailed | ⟨_, _, _, final⟩
  case inr => cases final
  unfold actionAt at actionFailed
  cases kind : before.current.kind <;> simp only [kind] at actionFailed
  case letKeyword => exact declaration_blames false kind actionFailed
  case constKeyword => exact declaration_blames true kind actionFailed
  all_goals
    refine expressionStatement_blames (fun constant => ?_) actionFailed
    cases constant <;> simp [kind, keywordKind]

/-- Where the statements of a stream break off, and with which error. The stream behind them is the
one that the parser has left. -/
inductive BreaksOff : TokenStream → SyntaxError → TokenStream → Prop where
  | here {stream after : TokenStream} {error : SyntaxError} :
      stream.current.kind ≠ .endOfFile → statement stream = .error error after →
      BreaksOff stream error after
  | later {stream middle after : TokenStream} {first : Statement} {error : SyntaxError} :
      stream.current.kind ≠ .endOfFile → statement stream = .ok first middle →
      BreaksOff middle error after → BreaksOff stream error after

theorem statements_eq_error_iff_breaksOff :
    statements stream = .error error ↔ ∃ after, BreaksOff stream error after := by
  constructor
  · intro failed
    induction stream using statements.induct with
    | case1 stream finished => cases (statements_at_end finished).symm.trans failed
    | case2 stream unfinished other after stopped =>
        cases (statements_of_error unfinished stopped).symm.trans failed
        exact ⟨after, .here unfinished stopped⟩
    | case3 stream unfinished first middle parsed shorter ih =>
        rw [statements_of_ok unfinished parsed] at failed
        cases later : statements middle with
        | ok rest => simp [later, Except.map] at failed
        | error other =>
            obtain ⟨after, breaks⟩ := ih (by simpa [later, Except.map] using failed)
            exact ⟨after, .later unfinished parsed breaks⟩
  · intro broken
    obtain ⟨after, breaks⟩ := broken
    induction breaks with
    | here unfinished stopped => exact statements_of_error unfinished stopped
    | later unfinished parsed _ ih =>
        rw [statements_of_ok unfinished parsed, ih]
        rfl

/-- A program that fails breaks off in one of the ways that the rules allow. -/
theorem BreaksOff.blames (breaks : BreaksOff stream error after) :
    ∃ tokens, Reads stream tokens after ∧ FailsStatements after.current tokens error := by
  induction breaks with
  | here unfinished stopped =>
      obtain ⟨tokens, read, failure⟩ := statement_blames stopped
      refine ⟨tokens, read, .first failure fun finished empty => ?_⟩
      subst empty
      rw [← read.eq_of_nil] at finished
      exact unfinished finished
  | later unfinished parsed breaks ih =>
      obtain ⟨tokens, action, firstRead, rfl, derived⟩ := statement_sound parsed
      obtain ⟨rest, read, failure⟩ := ih
      cases derived with
      | closed closed => exact ⟨_, firstRead.trans read, .later closed failure⟩
      | last value finished => cases breaks <;> contradiction

theorem statements_blames (failed : statements stream = .error error) :
    ∃ tokens after, Reads stream tokens after ∧ FailsStatements after.current tokens error := by
  obtain ⟨after, breaks⟩ := statements_eq_error_iff_breaksOff.mp failed
  obtain ⟨tokens, read, failure⟩ := breaks.blames
  exact ⟨tokens, after, read, failure⟩

end CalcScript.Grammar
