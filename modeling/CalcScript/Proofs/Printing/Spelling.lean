import CalcScript.Proofs.Grammar.Sources
import CalcScript.Proofs.Numbers.Whole
import CalcScript.Tree.Printed

/-!
# How the leaves of programs are spelled

The names of a program that was read from a text are runs of cased characters, and its numbers were
read from runs of digits.
-/

set_option autoImplicit false

namespace CalcScript

/-- A run of one or more accepted characters. -/
structure Text.IsRun (accepts : Char → Bool) (characters : List Char) : Prop where
  nonempty : characters ≠ []
  accepted : ∀ character ∈ characters, accepts character = true

/-- Words are spelled with letters, numbers with digits. -/
structure Token.Spelled (token : Token) : Prop where
  word : token.kind = .identifier → Text.IsRun Text.isCased token.text.toList
  number : token.kind = .number → Text.IsRun Number.isDigit token.text.toList

/-- A tree whose leaves can be spelled in the language. -/
def Expr.Spelled : Expr → Prop
  | number value _ => ∃ whole, value = Number.ofWhole whole
  | name symbol _ => Text.IsRun Text.isCased symbol.toList
  | binary _ left right _ => left.Spelled ∧ right.Spelled
  | assignment target value _ => target.Spelled ∧ value.Spelled

def Action.Spelled : Action → Prop
  | expression value => value.Spelled
  | declaration _ name _ value =>
    Text.IsRun Text.isCased name.toList ∧ ∀ initial ∈ value, initial.Spelled

def Program.Spelled (program : Program) : Prop :=
  ∀ statement ∈ program.statements, statement.action.Spelled

theorem Token.spelled_of_lexeme {kind : TokenKind} {run rest : List Char}
    (lexeme : Lexeme kind run rest) (span : Span) :
    Token.Spelled ⟨kind, String.ofList run, span⟩ := by
  cases lexeme with
  | @symbol character kind _ symbol =>
      have noRun : kind ≠ .identifier ∧ kind ≠ .number := by
        unfold symbolKind? at symbol
        split at symbol <;> cases symbol <;> decide
      exact ⟨fun word => absurd word noRun.1, fun number => absurd number noRun.2⟩
  | number nonempty longest =>
      refine ⟨(fun word => nomatch word), fun _ => ?_⟩
      rw [String.toList_ofList]
      exact ⟨nonempty, longest.accepted⟩
  | word nonempty longest =>
      refine ⟨fun _ => ?_, fun number => ?_⟩
      · rw [String.toList_ofList]
        exact ⟨nonempty, longest.accepted⟩
      · -- a word is a keyword or a name
        unfold wordKind TokenKind.keyword? at number
        split at number
        · cases number
        · split at number <;> cases number

theorem Token.Splits.spelled {place : Position} {characters : List Char} {tokens : List Token}
    (splits : Splits place characters tokens) : ∀ token ∈ tokens, token.Spelled := by
  induction splits with
  | stop blank =>
      intro token among
      cases List.mem_singleton.mp among
      constructor <;> (intro kind; cases kind)
  | token blank found _ ih => exact List.forall_mem_cons.mpr ⟨spelled_of_lexeme found _, ih⟩

namespace Grammar

theorem Derives.spelled {stage : Stage} {levels : Nat} {tokens : List Token} {tree : Expr}
    (derived : Derives stage levels tokens tree) (spelled : ∀ token ∈ tokens, token.Spelled) :
    tree.Spelled := by
  induction derived with
  | name kind => exact (spelled _ List.mem_cons_self).word kind
  | @number _ token value kind numeral =>
      have run := (spelled _ List.mem_cons_self).number kind
      have read := Number.read?_of_digits run.nonempty run.accepted
      rw [String.ofList_toList, numeral] at read
      exact ⟨_, Option.some.inj read⟩
  | group _ _ _ ih => exact ih fun token among => spelled token (by simp [among])
  | factor _ ih | term _ ih | plain _ ih => exact ih spelled
  | product _ _ _ _ leftIH rightIH | sum _ _ _ _ leftIH rightIH
  | assignment _ _ _ leftIH rightIH =>
      exact ⟨leftIH fun token among => spelled token (by simp [among]),
        rightIH fun token among => spelled token (by simp [among])⟩

theorem DerivesAction.spelled {tokens : List Token} {action : Action}
    (derived : DerivesAction Limited tokens action) (spelled : ∀ token ∈ tokens, token.Spelled) :
    action.Spelled := by
  cases derived with
  | @bare _ name _ _ kind =>
      exact ⟨(spelled name (by simp)).word kind, fun initial given => nomatch given⟩
  | @initialized _ _ name _ _ _ _ _ kind _ value =>
      refine ⟨(spelled name (by simp)).word kind, fun initial given => ?_⟩
      cases given
      exact value.derives.spelled fun token among => spelled token (by simp [among])
  | expression value =>
      exact value.derives.spelled fun token among => spelled token (by simp [among])

theorem DerivesStatements.spelled {tokens : List Token} {statements : List Statement}
    (derived : DerivesStatements Limited tokens statements)
    (spelled : ∀ token ∈ tokens, token.Spelled) :
    ∀ statement ∈ statements, statement.action.Spelled := by
  induction derived with
  | nil => exact List.forall_mem_nil _
  | last value =>
      exact List.forall_mem_singleton.mpr (value.derives.spelled spelled)
  | cons first _ ih =>
      obtain ⟨inFirst, inRest⟩ := List.forall_mem_append.mp spelled
      exact List.forall_mem_cons.mpr ⟨first.spelled inFirst, ih inRest⟩

end Grammar

/-- Every program that was read from a text is spelled in the language. -/
theorem Program.spelled_of_source {source : String} {program : Program}
    (formed : Program.ofSource source = .ok program) : program.Spelled := by
  obtain ⟨tokens, scanned, derived⟩ := Program.ofSource_eq_ok_iff_derives.mp formed
  have spelled := (Token.scan_eq_ok_iff.mp scanned).spelled
  exact derived.spelled fun token among => spelled token (List.dropLast_subset _ among)

end CalcScript
