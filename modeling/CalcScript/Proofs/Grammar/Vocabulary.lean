import CalcScript.Proofs.Layout.Nodes
import CalcScript.Proofs.Printing.Spelling
import CalcScript.Proofs.Session.Places

/-!
# The words that are read and the words that are parsed

The reader of tokens decides by characters what a number and an operator are, and the parser decides
again by the texts of tokens. They agree: the parser can make a number of every number and an
operator of one stage of every operator. So it never misses an operand in front of a token that is
one, nor an end in front of a token that carries an expression on.
-/

set_option autoImplicit false

namespace CalcScript

open Grammar

/-- A token whose text the parser knows what to do with. -/
structure Token.Known (token : Token) : Prop where
  number : token.kind = .number → ∃ value, Number.read? token.text = some value
  operator : token.kind = .operator → ∃ operator, Operator.ofSymbol? token.text = some operator

/-- A token that is written for an operator which one stage takes and the other does not. -/
def Token.OfOneStage (token : Token) : Prop :=
  ∃ operator, Denotes token operator ∧
    (Parser.operatorOf? Operator.isAdditive token = some operator ∧
        Parser.operatorOf? Operator.isMultiplicative token = none ∨
      Parser.operatorOf? Operator.isAdditive token = none ∧
        Parser.operatorOf? Operator.isMultiplicative token = some operator)

theorem Token.known_of_lexeme {kind : TokenKind} {run rest : List Char}
    (lexeme : Lexeme kind run rest) (span : Span) :
    Token.Known ⟨kind, String.ofList run, span⟩ := by
  constructor
  case number =>
    intro number
    have digits := (spelled_of_lexeme lexeme span).number number
    rw [String.toList_ofList] at digits
    exact ⟨_, Number.read?_of_digits digits.nonempty digits.accepted⟩
  case operator =>
    intro operator
    cases lexeme with
    | @symbol character _ _ symbol =>
        change _ = TokenKind.operator at operator
        subst operator
        -- the symbols that are read as operators are those that operators are written with
        unfold symbolKind? at symbol
        split at symbol <;> cases symbol <;> exact ⟨_, rfl⟩
    | number => cases operator
    | word =>
        unfold wordKind TokenKind.keyword? at operator
        split at operator
        · cases operator
        · split at operator <;> cases operator

theorem Token.Splits.known {place : Position} {characters : List Char} {tokens : List Token}
    (splits : Splits place characters tokens) : ∀ token ∈ tokens, token.Known := by
  induction splits with
  | stop blank =>
      refine List.forall_mem_singleton.mpr ⟨?_, ?_⟩ <;> exact nofun
  | token _ found _ ih => exact List.forall_mem_cons.mpr ⟨known_of_lexeme found _, ih⟩

namespace Token.Known

variable {token : Token} (known : token.Known)

include known

theorem starts (kind : token.kind = .number ∨ token.kind = .identifier ∨ token.kind = .openParen) :
    Starts token := by
  rcases kind with number | name | opens
  · obtain ⟨value, numeral⟩ := known.number number
    exact .inr (.inr ⟨number, by rw [numeral]; rfl⟩)
  · exact .inl name
  · exact .inr (.inl opens)

theorem ofOneStage (kind : token.kind = .operator) : token.OfOneStage := by
  obtain ⟨operator, symbol⟩ := known.operator kind
  refine ⟨operator, ⟨kind, symbol⟩, ?_⟩
  simp only [Parser.operatorOf?, if_pos kind, symbol]
  cases operator <;> decide

theorem not_delimits (kind : token.kind = .operator ∨ token.kind = .equals) :
    ¬Stage.expression.Delimits token := by
  intro ⟨noFactor, noTerm, noEquals⟩
  rcases kind with isOperator | isEquals
  · obtain ⟨operator, -, ⟨term, -⟩ | ⟨-, factor⟩⟩ := known.ofOneStage isOperator
    · cases noTerm.symm.trans term
    · cases noFactor.symm.trans factor
  · exact noEquals isEquals

end Token.Known

/-! ## Faults -/

/-- A fault that is not about a token of the kind that was wanted. -/
def SyntaxFault.Fair : SyntaxFault → Prop
  | expectedExpression found =>
    found.kind ≠ .number ∧ found.kind ≠ .identifier ∧ found.kind ≠ .openParen
  | expectedToken expected found =>
    expected = .semicolon ∨ expected = .closeParen → found.kind ≠ .operator ∧ found.kind ≠ .equals
  | uninitializedConstant _ | nestedTooDeep _ => True

namespace Grammar

variable {next : Token} {tokens : List Token} {error : SyntaxError}

theorem fair_of_delimits (known : next.Known) (delimits : Stage.expression.Delimits next)
    (expected : TokenKind) : (SyntaxFault.expectedToken expected next).Fair := by
  intro _
  refine ⟨fun operator => ?_, fun equals => ?_⟩
  · exact known.not_delimits (.inl operator) delimits
  · exact known.not_delimits (.inr equals) delimits

theorem Fails.fair {stage : Stage} {levels : Nat} (fails : Fails next stage levels tokens error)
    (known : next.Known) : error.fault.Fair := by
  induction fails with
  | operand noStart =>
      refine ⟨fun number => ?_, fun name => ?_, fun opens => ?_⟩
      · exact noStart (known.starts (.inl number))
      · exact noStart (known.starts (.inr (.inl name)))
      · exact noStart (known.starts (.inr (.inr opens)))
  | unclosed _ _ delimits => exact fair_of_delimits known delimits _
  | group _ _ ih | factor _ ih | product _ _ _ _ ih | term _ ih | sum _ _ _ _ ih | target _ ih
  | value _ _ _ ih => exact ih
  | highProduct | highSum | nesting | highAssignment => trivial

theorem FailsStatement.fair (fails : FailsStatement next tokens error) (known : next.Known) :
    error.fault.Fair := by
  cases fails with
  | unnamed | unvalued =>
      intro wanted
      rcases wanted with semicolon | closing
      · cases semicolon
      · cases closing
  | uninitialized => trivial
  | value _ _ _ value | expression value => exact value.fair known
  | unterminated _ _ _ _ delimits | unended _ delimits => exact fair_of_delimits known delimits _

theorem FailsStatements.fair (fails : FailsStatements next tokens error) (known : next.Known) :
    error.fault.Fair := by
  induction fails with
  | first fails => exact fails.fair known
  | later _ _ ih => exact ih

end Grammar

/-! ## Numbers -/

theorem Expr.Spelled.of_mem_nodes {tree : Expr} (spelled : tree.Spelled) :
    ∀ node ∈ tree.nodes, node.Spelled := by
  induction tree with
  | number | name => exact List.forall_mem_singleton.mpr spelled
  | binary _ _ _ _ leftIH rightIH | assignment _ _ _ leftIH rightIH =>
      have inParts := List.forall_mem_append.mpr ⟨leftIH spelled.1, rightIH spelled.2⟩
      exact List.forall_mem_cons.mpr ⟨spelled, inParts⟩

theorem Program.Spelled.of_mem_nodes {program : Program} (spelled : program.Spelled) :
    ∀ node ∈ program.nodes, node.Spelled := by
  intro node among
  obtain ⟨statement, inProgram, inStatement⟩ := List.mem_flatMap.mp among
  have action := spelled statement inProgram
  obtain ⟨_ | ⟨constant, name, nameSpan, _ | value⟩, span⟩ := statement
  · exact Expr.Spelled.of_mem_nodes action node inStatement
  · cases inStatement
  · exact Expr.Spelled.of_mem_nodes (action.2 value rfl) node inStatement

/-- The reader of tokens and the parser agree on the words of a text. -/
structure Program.SharesWords (tokens : List Token) : Prop where
  fair : ∀ error, Program.ofTokens tokens = .error error → error.fault.Fair
  operators : ∀ token ∈ tokens, token.kind = .operator → token.OfOneStage
  /-- No number of a tree is negative, a negative zero or no number at all. -/
  numbers : ∀ program, Program.ofTokens tokens = .ok program →
    ∀ value span, Expr.number value span ∈ program.nodes →
      Binary64.isNegative value = false ∧ Binary64.sizePattern value ≤ Binary64.infinityPattern

theorem Program.sharesWords_of_scan {source : String} {tokens : List Token}
    (scanned : Token.scan source = .ok tokens) : Program.SharesWords tokens := by
  have known := (Token.scan_eq_ok_iff.mp scanned).known
  constructor
  case fair =>
    intro error failed
    obtain ⟨read, next, fails, among, -⟩ := Token.exists_fails scanned failed
    exact fails.fair (known next among)
  case operators => exact fun token among kind => (known token among).ofOneStage kind
  case numbers =>
    intro program formed value span among
    have spelled := Program.spelled_of_source (Program.ofSource_eq_ok_iff.mpr ⟨_, scanned, formed⟩)
    obtain ⟨whole, rfl⟩ := spelled.of_mem_nodes _ among
    have number := Number.decimalPattern_le whole
    refine ⟨Binary64.isNegative_ofPattern number false, ?_⟩
    rw [Number.ofWhole, Binary64.sizePattern_ofPattern number]
    exact number

/-- A number, an operator of the tighter stage and a name. -/
theorem Program.sharesWords_remainder :
    ∃ tokens, Token.scan "7 % a" = .ok tokens ∧ tokens.length = 4 ∧
      Program.SharesWords tokens := by
  have scanned : Token.scan "7 % a" = .ok
      [⟨.number, "7", ⟨0, 1, 1⟩, ⟨1, 1, 2⟩⟩, ⟨.operator, "%", ⟨2, 1, 3⟩, ⟨3, 1, 4⟩⟩,
        ⟨.identifier, "a", ⟨4, 1, 5⟩, ⟨5, 1, 6⟩⟩, .endOfFile ⟨5, 1, 6⟩] :=
    ok_of_toOption_eq_some (by decide +kernel)
  exact ⟨_, scanned, rfl, Program.sharesWords_of_scan scanned⟩

end CalcScript
