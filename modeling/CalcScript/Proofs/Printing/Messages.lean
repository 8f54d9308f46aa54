import CalcScript.Proofs.Printing.Leaves
import CalcScript.Proofs.Session.Safety

/-!
# Messages on one line

A message repeats words of a script and characters of it, but never a line feed: words contain no
blanks, and a foreign character that has no visible form is written as an escape.
-/

set_option autoImplicit false

namespace CalcScript

namespace Text

theorem not_mem_toDigits {base : Nat} (large : 1 < base) (number : Nat) :
    '\n' ∉ Nat.toDigits base number := by
  have digit (value : Nat) : '\n' ∉ [value.digitChar] := by
    rw [List.mem_singleton]
    exact Ne.symm (Nat.digitChar_ne '\n' rfl)
  induction number using Nat.strongRecOn with
  | ind number ih =>
      by_cases small : number < base
      · rw [Nat.toDigits_of_lt_base small]
        exact digit number
      · have enough := Nat.le_of_not_lt small
        rw [Nat.toDigits_of_base_le large enough, List.mem_append, not_or]
        exact ⟨ih _ (Nat.div_lt_self (by omega) large), digit _⟩

theorem not_mem_quoted (character : Char) : '\n' ∉ (quoted character).toList := by
  have escape : '\n' ∉ (escaped character).toList := by
    unfold escaped
    split_ifs <;> try simp
    · simp [hexadecimal, not_mem_toDigits]
    · simpa [eq_comm] using ‹¬character = '\n'›
  simp [quoted, escape]

theorem IsRun.not_mem {accepts : Char → Bool} {run : List Char} (isRun : IsRun accepts run)
    (refused : accepts '\n' = false) : '\n' ∉ run := by
  intro among
  cases refused.symm.trans (isRun.accepted '\n' among)

end Text

theorem Position.not_mem_shown (place : Position) : '\n' ∉ place.shown.toList := by
  simp [shown, Text.not_mem_toDigits]

/-! ## Words -/

theorem Token.Splits.not_mem_text {place : Position} {characters : List Char}
    {tokens : List Token} (splits : Splits place characters tokens) :
    ∀ token ∈ tokens, '\n' ∉ token.text.toList := by
  induction splits with
  | stop => simp [endOfFile]
  | token blank found _ ih =>
      refine List.forall_mem_cons.mpr ⟨?_, ih⟩
      rw [String.toList_ofList]
      intro among
      cases found.not_blank '\n' among

theorem Token.not_mem_description {token : Token} (word : '\n' ∉ token.text.toList) :
    '\n' ∉ token.description.toList := by
  rw [description]
  cases token.kind <;> simp [TokenKind.description, word]

/-- What breaks a program off is described with the words of its tokens. -/
theorem Grammar.FailsStatements.not_mem_message {next : Token} {tokens : List Token}
    {error : SyntaxError} (fails : FailsStatements next tokens error)
    (nextWord : '\n' ∉ next.text.toList) (words : ∀ token ∈ tokens, '\n' ∉ token.text.toList) :
    '\n' ∉ error.fault.message.toList := by
  have found (token : Token) (blamed : error.fault.found? = some token) :
      '\n' ∉ token.description.toList := by
    obtain ⟨rfl, -⟩ := fails.found_eq blamed
    exact Token.not_mem_description nextWord
  cases fault : error.fault with
  | expectedToken expected token =>
      have described := found token (by rw [fault]; rfl)
      have kind : '\n' ∉ expected.description.toList := by
        cases expected <;> simp [TokenKind.description]
      dsimp only [SyntaxFault.message]
      simp [described, kind]
  | expectedExpression token =>
      have described := found token (by rw [fault]; rfl)
      dsimp only [SyntaxFault.message]
      simp [described]
  | uninitializedConstant name =>
      obtain ⟨complete, keyword, named, semicolon, rfl, -, -, -, -, rfl⟩ :=
        fails.exists_uninitialized fault
      cases fault
      dsimp only [SyntaxFault.message]
      simp [words named (by simp)]
  | nestedTooDeep limit =>
      dsimp only [SyntaxFault.message]
      simp [Text.not_mem_toDigits]

/-! ## Steps -/

theorem Text.IsRun.not_mem_of_cased {name : String} (isRun : IsRun isCased name.toList) :
    '\n' ∉ name.toList :=
  isRun.not_mem (by decide +kernel)

theorem Expr.Spelled.not_mem_printed {tree : Expr} (spelled : tree.Spelled) :
    '\n' ∉ tree.printed.toList := by
  induction tree with
  | number value span =>
      obtain ⟨whole, rfl⟩ := spelled
      exact (Number.isRun_text whole).not_mem (by decide +kernel)
  | name symbol span => exact Text.IsRun.not_mem_of_cased spelled
  | binary operator left right span leftIH rightIH =>
      have symbol : '\n' ∉ operator.symbol.toList := by cases operator <;> simp [Operator.symbol]
      simp [printed, symbol, leftIH spelled.1, rightIH spelled.2]
  | assignment target value span targetIH valueIH =>
      simp [printed, targetIH spelled.1, valueIH spelled.2]

/-- A step about words that are spelled in the language. -/
def Step.Spelled : Step → Prop
  | supply _ | operate _ _ => True
  | read name _ | write name _ | declare _ name _ => Text.IsRun Text.isCased name.toList
  | check target => target.Spelled

theorem Expr.Spelled.steps {tree : Expr} (spelled : tree.Spelled) :
    ∀ step ∈ tree.steps, step.Spelled := by
  induction tree with
  | number value span => exact List.forall_mem_singleton.mpr trivial
  | name symbol span => exact List.forall_mem_singleton.mpr spelled
  | binary operator left right span leftIH rightIH =>
      refine List.forall_mem_append.mpr ⟨List.forall_mem_append.mpr ?_, ?_⟩
      · exact ⟨leftIH spelled.1, rightIH spelled.2⟩
      · exact List.forall_mem_singleton.mpr trivial
  | assignment target value span _ valueIH =>
      refine List.forall_mem_append.mpr ⟨List.forall_mem_cons.mpr ⟨spelled.1, valueIH spelled.2⟩, ?_⟩
      cases target with
      | name symbol span => exact List.forall_mem_singleton.mpr spelled.1
      | number | binary | assignment => exact List.forall_mem_nil _

theorem Action.Spelled.steps {action : Action} (spelled : action.Spelled) :
    ∀ step ∈ action.steps, step.Spelled := by
  cases action with
  | expression value => exact Expr.Spelled.steps spelled
  | declaration constant name nameSpan value =>
      have last : ∀ step ∈ [Step.declare constant name nameSpan], step.Spelled :=
        List.forall_mem_singleton.mpr spelled.1
      cases value with
      | none => exact List.forall_mem_cons.mpr ⟨trivial, last⟩
      | some value =>
          exact List.forall_mem_append.mpr ⟨(spelled.2 value rfl).steps, last⟩

theorem Program.Spelled.steps {program : Program} (spelled : program.Spelled) :
    ∀ step ∈ program.steps, step.Spelled := by
  intro step among
  obtain ⟨statement, inProgram, inStatement⟩ := List.mem_flatMap.mp among
  exact Action.Spelled.steps (spelled statement inProgram) step inStatement

theorem Step.MayFail.not_mem_message {step : Step} {fault : Fault} (mayFail : step.MayFail fault)
    (spelled : step.Spelled) : '\n' ∉ fault.message.toList := by
  cases mayFail with
  | @operands operator left right =>
      have symbol : '\n' ∉ operator.symbol.toList := by cases operator <;> simp [Operator.symbol]
      have leftName : '\n' ∉ left.typeName.toList := by cases left <;> simp [Value.typeName]
      have rightName : '\n' ∉ right.typeName.toList := by cases right <;> simp [Value.typeName]
      dsimp only [Fault.message]
      simp [symbol, leftName, rightName]
  | division =>
      dsimp only [Fault.message]
      simp
  | target =>
      dsimp only [Fault.message]
      simp [Expr.Spelled.not_mem_printed spelled]
  | read | missing | constant | duplicate =>
      dsimp only [Fault.message]
      simp [Text.IsRun.not_mem_of_cased spelled]

/-! ## Diagnostics -/

theorem Program.ofSource_not_mem_reason {source : String} {diagnostic : Diagnostic}
    (failed : Program.ofSource source = .error diagnostic) : '\n' ∉ diagnostic.reason.toList := by
  rw [Program.ofSource] at failed
  cases scanned : Token.scan source with
  | error error =>
      rw [scanned] at failed
      cases failed
      dsimp only [Diagnostic.reason]
      simp [Text.not_mem_quoted]
  | ok tokens =>
      rw [scanned] at failed
      dsimp only at failed
      cases parsed : Program.ofTokens tokens with
      | ok program =>
          rw [parsed] at failed
          cases failed
      | error error =>
          rw [parsed] at failed
          cases failed
          have words := (Token.scan_eq_ok_iff.mp scanned).not_mem_text
          obtain ⟨read, next, fails, nextAmong, readAmong⟩ := Token.exists_fails scanned parsed
          exact fails.not_mem_message (words next nextAmong)
            fun token among => words token (readAmong among)

/-- A session says what is wrong with a script on one line. -/
theorem Session.not_mem_message {session : Session} (alone : session.stack.RootAlone)
    {source : String} {diagnostic : Diagnostic} (failed : (session.run source).1 = .error diagnostic) :
    '\n' ∉ diagnostic.message.toList := by
  have reason : '\n' ∉ diagnostic.reason.toList := by
    cases formed : Program.ofSource source with
    | error other =>
        rw [run, formed] at failed
        cases failed
        exact Program.ofSource_not_mem_reason formed
    | ok program =>
        cases diagnostic with
        | runtime error =>
            have answered : session.answer (.script source) = .error (.runtime error) := failed
            obtain ⟨step, among, mayFail, -⟩ := exists_mayFail alone answered
            rw [Call.steps, formed] at among
            exact mayFail.not_mem_message ((Program.spelled_of_source formed).steps step among)
        | lexical error | syntactic error =>
            rw [run_of_ok formed] at failed
            cases ran : (session.runProgram program).1 <;> rw [ran] at failed <;> cases failed
  simp [Diagnostic.message, reason, Span.shown, Position.not_mem_shown]

end CalcScript
