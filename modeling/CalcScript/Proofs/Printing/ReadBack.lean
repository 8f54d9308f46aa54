import CalcScript.Proofs.Grammar.Rejections
import CalcScript.Proofs.Grammar.Sources
import CalcScript.Proofs.Lexing.Places
import CalcScript.Proofs.Numbers.Fractions

/-!
# Values read back from their texts

The text of a value is a script. For the values that the language can spell it has that value again.
The texts of all other numbers fail: a decimal point is foreign to the language, no expression
starts with a minus sign, and the words for infinities and for what is no number are names that a
fresh session does not know.
-/

set_option autoImplicit false

namespace CalcScript

open Token (Lexeme Splits)

/-! ## Scripts of one word -/

theorem Token.Lexeme.splits {kind : TokenKind} {run : List Char} (found : Lexeme kind run [])
    (place : Position) :
    Splits place run [⟨kind, String.ofList run, place, place.advance run⟩,
      .endOfFile (place.advance run)] := by
  have ended : Splits (place.advance ([] ++ run)) [] _ := .stop (List.forall_mem_nil _)
  have whole := Splits.token (List.forall_mem_nil _) found ended
  rwa [List.append_nil] at whole

theorem Token.Splits.scan_ofList {characters : List Char} {tokens : List Token}
    (splits : Splits Position.start characters tokens) :
    Token.scan (String.ofList characters) = .ok tokens := by
  rwa [Token.scan_eq_ok_iff, String.toList_ofList]

theorem Program.evaluate_expression (tree : Expr) (span : Span) :
    Program.evaluate ⟨[⟨.expression tree, span⟩]⟩ = tree.evaluate := by
  rw [evaluate, List.foldlM_cons]
  exact bind_pure tree.evaluate

/-- A script that is one leaf has the value of that leaf. -/
theorem evaluate_leaf {kind : TokenKind} {run : List Char} {tree : Expr}
    (found : Lexeme kind run []) (derived : Grammar.Limited
      [⟨kind, String.ofList run, Position.start, Position.start.advance run⟩] tree) :
    evaluate (String.ofList run) = (Session.start.runExpression tree).1.mapError .runtime := by
  have scanned := (found.splits Position.start).scan_ofList
  have formed := Program.ofSource_eq_ok_iff_derives.mpr ⟨_, scanned, .last derived⟩
  rw [evaluate, Session.run_of_ok formed, Session.runProgram, Program.evaluate_expression]
  rfl

theorem evaluate_digits {digits : List Char} {value : Float} (present : digits ≠ [])
    (run : ∀ character ∈ digits, Number.isDigit character = true)
    (read : Number.read? (String.ofList digits) = some value) :
    evaluate (String.ofList digits) = .ok (.number value) := by
  have found : Lexeme .number digits [] := .number present ⟨run, nofun⟩
  exact evaluate_leaf found ⟨.plain (.term (.factor (.number rfl read))), Grammar.one_le_maxHeight⟩

/-- A word that is read as a name. -/
def Token.IsName (word : String) : Prop :=
  word.toList ≠ [] ∧ word.toList.all Text.isCased = true ∧ wordKind word.toList = .identifier

instance (word : String) : Decidable (Token.IsName word) :=
  inferInstanceAs (Decidable (_ ∧ _ ∧ _))

theorem Token.IsName.lexeme {word : String} (isName : IsName word) :
    Lexeme .identifier word.toList [] := by
  obtain ⟨nonempty, cased, free⟩ := isName
  exact free ▸ .word nonempty ⟨List.all_eq_true.mp cased, nofun⟩

/-- A name stands for what a fresh session knows by it. -/
theorem evaluate_name {word : String} (isName : Token.IsName word) :
    (∀ value, ScopeStack.standard.read ScopeStack.root word = .ok value →
      evaluate word = .ok value) ∧
    ∀ fault, ScopeStack.standard.read ScopeStack.root word = .error fault →
      ∃ span, evaluate word = .error (.runtime ⟨fault, span⟩) := by
  have whole := evaluate_leaf isName.lexeme
    ⟨.plain (.term (.factor (.name rfl))), Grammar.one_le_maxHeight⟩
  have standard : Session.start.stack = ScopeStack.standard := rfl
  rw [String.ofList_toList, Session.runExpression, Session.step, Expr.evaluate,
    Evaluation.readName_apply, Evaluation.blame_apply, standard] at whole
  constructor
  · intro value known
    rw [whole, known]
    rfl
  · intro fault unknown
    refine ⟨⟨Position.start, Position.start.advance word.toList⟩, ?_⟩
    rw [whole, unknown]
    rfl

/-- No expression starts with an operator, whatever stands behind it. -/
theorem Program.ofTokens_operator {minus : Token} (operator : minus.kind = .operator)
    (rest : List Token) :
    Program.ofTokens (minus :: rest) = .error ⟨.expectedExpression minus, minus.span⟩ := by
  have unfit : ¬Grammar.Starts minus := by simp [Grammar.Starts, operator]
  have fails : Grammar.Fails minus .expression Parser.maxNesting []
      ⟨.expectedExpression minus, minus.span⟩ :=
    .target (.term (.factor (.operand unfit)))
  have plain : ∀ constant, minus.kind = Grammar.keywordKind constant → ([] : List Token) ≠ [] := by
    intro constant keyword
    cases constant <;> cases operator.symm.trans keyword
  have unended : minus.kind = .endOfFile → ([] : List Token) ≠ [] := by
    intro ended
    cases operator.symm.trans ended
  have failed : Parser.statements (TokenStream.ofList (minus :: rest)) = _ :=
    Grammar.statements_eq_error_iff.mpr ⟨[], _, .refl _, .first (.expression fails plain) unended⟩
  rw [Program.ofTokens, failed]
  rfl

theorem evaluate_minus {kind : TokenKind} {run : List Char} (found : Lexeme kind run []) :
    ∃ span, evaluate (String.ofList ('-' :: run)) =
      .error (.syntactic ⟨.expectedExpression ⟨.operator, "-", span⟩, span⟩) := by
  have minus : Lexeme .operator ['-'] run := .symbol rfl
  have scanned := (Splits.token (List.forall_mem_nil _) minus (found.splits _)).scan_ofList
  refine ⟨⟨Position.start, Position.start.advance ['-']⟩, ?_⟩
  change Token.scan (String.ofList ('-' :: run)) = _ at scanned
  rw [evaluate, Session.run, Program.ofSource, scanned]
  dsimp only
  rw [Program.ofTokens_operator rfl]
  rfl

theorem evaluate_point {front : List Char}
    (native : ∀ character ∈ front, ¬Token.Foreign character) (back : List Char) :
    ∃ place, evaluate (String.ofList (front ++ '.' :: back)) = .error (.lexical ⟨'.', place⟩) := by
  have point : Token.Foreign '.' := by decide +kernel
  have failed : Token.scan (String.ofList (front ++ '.' :: back)) =
      .error ⟨'.', Position.behind front⟩ :=
    Token.scan_eq_error_iff.mpr ⟨front, back, String.toList_ofList, point, native, rfl⟩
  refine ⟨Position.behind front, ?_⟩
  rw [evaluate, Session.run, Program.ofSource, failed]

/-! ## Values -/

namespace Number

open Binary64

/-- A finite number, of either sign, whose units make up so many times one. -/
def IsWhole (number : Float) : Prop :=
  sizePattern number < infinityPattern ∧ unitsPerOne ∣ units (sizePattern number)

def IsFractional (number : Float) : Prop :=
  sizePattern number < infinityPattern ∧ ¬unitsPerOne ∣ units (sizePattern number)

/-- What comes of running the text of a number. -/
structure ReadsBack (number : Float) : Prop where
  kinds : IsWhole number ∨ IsFractional number ∨ sizePattern number = infinityPattern ∨
    infinityPattern < sizePattern number
  whole : IsWhole number → isNegative number = false →
    evaluate (Value.number number).text = .ok (.number number)
  fractional : IsFractional number →
    ∃ place, evaluate (Value.number number).text = .error (.lexical ⟨'.', place⟩)
  negative : IsWhole number ∨ sizePattern number = infinityPattern → isNegative number = true →
    ∃ span, evaluate (Value.number number).text =
      .error (.syntactic ⟨.expectedExpression ⟨.operator, "-", span⟩, span⟩)
  infinite : sizePattern number = infinityPattern → isNegative number = false →
    ∃ span, evaluate (Value.number number).text = .error (.runtime ⟨.unresolved "inf", span⟩)
  noNumber : infinityPattern < sizePattern number →
    ∃ span, evaluate (Value.number number).text = .error (.runtime ⟨.unresolved "NaN", span⟩)

theorem text_of_infinite {number : Float} (infinite : sizePattern number = infinityPattern) :
    text (ofPattern false (sizePattern number)) = String.ofList "inf".toList := by
  rw [infinite, text_infinity, String.ofList_toList]

theorem isName_inf : Token.IsName "inf" := by decide +kernel

theorem readsBack (number : Float) : ReadsBack number where
  kinds := by
    rcases Nat.lt_trichotomy (sizePattern number) infinityPattern with finite | infinite | above
    · by_cases whole : unitsPerOne ∣ units (sizePattern number)
      · exact .inl ⟨finite, whole⟩
      · exact .inr (.inl ⟨finite, whole⟩)
    · exact .inr (.inr (.inl infinite))
    · exact .inr (.inr (.inr above))
  whole := by
    rintro ⟨finite, whole⟩ positive
    obtain ⟨digits, nonempty, run, written, read⟩ := exists_digits finite whole
    rw [ofPattern_of_positive positive] at written read
    rw [Value.text, written]
    exact evaluate_digits nonempty run read
  fractional := by
    rintro ⟨finite, broken⟩
    obtain ⟨front, back, digits, written⟩ := exists_digits_and_point finite broken
    have native : ∀ character ∈ front, ¬Token.Foreign character := fun character among foreign =>
      Bool.false_ne_true (foreign.digit.symm.trans (digits character among))
    rw [Value.text]
    cases negative : isNegative number with
    | false =>
        rw [ofPattern_of_positive negative] at written
        rw [written]
        exact evaluate_point native back
    | true =>
        rw [text_of_negative negative finite.le written]
        have signed : ∀ character ∈ '-' :: front, ¬Token.Foreign character :=
          List.forall_mem_cons.mpr ⟨by decide, native⟩
        have answer := evaluate_point signed back
        rwa [List.cons_append] at answer
  negative := by
    intro kind negative
    rw [Value.text]
    rcases kind with ⟨finite, whole⟩ | infinite
    · obtain ⟨digits, nonempty, run, written, -⟩ := exists_digits finite whole
      rw [text_of_negative negative finite.le written]
      exact evaluate_minus (.number nonempty ⟨run, nofun⟩)
    · rw [text_of_negative negative infinite.le (text_of_infinite infinite)]
      exact evaluate_minus isName_inf.lexeme
  infinite := by
    intro infinite positive
    have written := text_of_infinite infinite
    rw [ofPattern_of_positive positive, String.ofList_toList] at written
    rw [Value.text, written]
    exact (evaluate_name isName_inf).2 _ rfl
  noNumber := by
    intro above
    rw [Value.text, text_noNumber above]
    exact (evaluate_name (by decide +kernel)).2 _ rfl

end Number

/-- The text of a truth value, of `null` or of a finite whole number whose sign bit is clear has
that very value, and the texts of all other numbers fail. -/
theorem Value.reads_back :
    (∀ truth, evaluate (boolean truth).text = .ok (.boolean truth)) ∧
    evaluate null.text = .ok .null ∧
    ∀ number, Number.ReadsBack number := by
  refine ⟨fun truth => ?_, ?_, Number.readsBack⟩
  · cases truth with
    | false => exact (evaluate_name (by decide +kernel)).1 _ rfl
    | true => exact (evaluate_name (by decide +kernel)).1 _ rfl
  · exact (evaluate_name (by decide +kernel)).1 _ rfl

end CalcScript
