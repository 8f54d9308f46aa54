import CalcScript.Proofs.Grammar.Soundness

/-!
# What is derived is read

A parser in front of tokens that derive a tree reads exactly these tokens, whatever follows them, as
long as the token after them does not carry the tree on. A chain is followed by its own loop: the
parser of a chained stage comes to its loop with the tree derived so far. With soundness this
settles which tokens form a program, and which program.
-/

set_option autoImplicit false

namespace CalcScript.Grammar

open CalcScript.Parser

/-- The parser of a stage whose expressions may be nested a number of levels deep. -/
def Stage.parser (levels : Nat) : Stage → Parser Expr
  | primary => Parser.primary (expressionWithin levels)
  | multiplicative => Parser.multiplicative (expressionWithin levels)
  | additive => Parser.additive (expressionWithin levels)
  | expression => expressionWithin levels

/-- What the parser of a stage has still to do after a tree. -/
def Stage.resumed (levels : Nat) (tree : Expr) : Stage → Parser Expr
  | primary | expression => pure tree
  | multiplicative =>
    chainFrom Operator.isMultiplicative (Parser.primary (expressionWithin levels)) tree
  | additive => chainFrom Operator.isAdditive (Parser.multiplicative (expressionWithin levels)) tree

/-- A token after which a tree of a stage has to be resumed and nothing inside it has. -/
def Stage.Delimits : Stage → Token → Prop
  | primary, _ | multiplicative, _ => True
  | additive, token => operatorOf? Operator.isMultiplicative token = none
  | expression, token =>
    operatorOf? Operator.isMultiplicative token = none ∧
      operatorOf? Operator.isAdditive token = none ∧ token.kind ≠ .equals

theorem operatorOf?_eq_none_of_kind {stage : Operator → Bool} {token : Token}
    (kind : token.kind ≠ .operator) : operatorOf? stage token = none := if_neg kind

theorem Stage.delimits_of_kind (stage : Stage) {token : Token} (operator : token.kind ≠ .operator)
    (equals : token.kind ≠ .equals) : stage.Delimits token := by
  cases stage with
  | primary | multiplicative => trivial
  | additive => exact operatorOf?_eq_none_of_kind operator
  | expression =>
      exact ⟨operatorOf?_eq_none_of_kind operator, operatorOf?_eq_none_of_kind operator, equals⟩

/-- An operator of the additive stage ends every product. -/
theorem Denotes.not_multiplicative {token : Token} {operator : Operator}
    (denotes : Denotes token operator) (additive : operator.isAdditive = true) :
    operatorOf? Operator.isMultiplicative token = none := by
  rw [operatorOf?, if_pos denotes.1, denotes.2]
  simp [Option.filter, Operator.isMultiplicative, additive]

theorem chainFrom_stops {stage : Operator → Bool} {operand : Parser Expr} {left : Expr}
    {stream : TokenStream} (stops : operatorOf? stage stream.current = none) :
    chainFrom stage operand left stream = .ok left stream := by
  rw [chainFrom, current_bind_apply]
  simp only [stops]
  rfl

/-- One round of the loop of a chain. -/
theorem chainFrom_links {stage : Operator → Bool} {operand : Parser Expr} {operator : Operator}
    {left right : Expr} {stream after : TokenStream} (denotes : Denotes stream.current operator)
    (staged : stage operator = true) (parsed : operand stream.advanced = .ok right after)
    (fits : (Expr.linked operator left right).height ≤ maxHeight) :
    chainFrom stage operand left stream =
      chainFrom stage operand (.linked operator left right) after := by
  rw [chainFrom, current_bind_apply]
  simp only [operatorOf?_eq_some_iff.mpr ⟨denotes, staged⟩]
  rw [advance_bind_apply, bind_of_ok parsed, dif_pos fits]

theorem Derives.parser_eq {stage : Stage} {levels : Nat} {tokens : List Token} {tree : Expr}
    (derived : Derives stage levels tokens tree) (fits : tree.height ≤ maxHeight)
    {before after : TokenStream} (read : Reads before tokens after)
    (delimited : stage.Delimits after.current) :
    stage.parser levels before = stage.resumed levels tree after := by
  induction derived generalizing before after with
  | name kind =>
      have current := read.current_eq
      cases read.tail.eq_of_nil
      simp only [Stage.parser, primary, current_bind_apply, current, kind]
      rfl
  | number kind numeral =>
      have current := read.current_eq
      cases read.tail.eq_of_nil
      simp only [Stage.parser, primary, current_bind_apply, current, kind, numeral]
      rfl
  | @group levels opening closing tokens tree opens _ closes ih =>
      obtain ⟨middle, openRead, closeRead⟩ := read.split
      have closeCurrent : middle.current.kind = .closeParen := closeRead.current_eq ▸ closes
      have inner : expressionWithin levels before.advanced = .ok tree middle :=
        ih fits openRead.tail (Stage.delimits_of_kind _ (by simp [closeCurrent])
          (by simp [closeCurrent]))
      have opening := openRead.current_eq
      cases closeRead.tail.eq_of_nil
      simp only [Stage.parser, primary, current_bind_apply, opening, opens]
      rw [advance_bind_apply, bind_of_ok inner, expect_bind_apply, if_pos closeCurrent]
      rfl
  | factor _ ih => exact bind_of_ok (ih fits read trivial)
  | @product levels lefts rights sign operator left right _ denotes staged _ leftIH rightIH =>
      -- the parser of the left part comes to the loop of this chain, which makes one more round
      obtain ⟨middle, leftRead, rightRead⟩ := read.split
      have heights := fits
      rw [Expr.height_linked] at heights
      rw [leftIH (by omega) leftRead trivial]
      exact chainFrom_links (rightRead.current_eq ▸ denotes) staged
        (rightIH (by omega) rightRead.tail trivial) fits
  | @term levels tokens tree _ ih =>
      have whole : Parser.multiplicative (expressionWithin levels) before = .ok tree after :=
        (ih fits read trivial).trans (chainFrom_stops delimited)
      exact bind_of_ok whole
  | @sum levels lefts rights sign operator left right _ denotes staged _ leftIH rightIH =>
      obtain ⟨middle, leftRead, rightRead⟩ := read.split
      have heights := fits
      rw [Expr.height_linked] at heights
      have signed : Denotes middle.current operator := rightRead.current_eq ▸ denotes
      have operand : Parser.multiplicative (expressionWithin levels) middle.advanced =
          .ok right after :=
        (rightIH (by omega) rightRead.tail trivial).trans (chainFrom_stops delimited)
      rw [leftIH (by omega) leftRead (signed.not_multiplicative staged)]
      exact chainFrom_links signed staged operand fits
  | @plain levels tokens tree _ ih =>
      obtain ⟨noFactor, noTerm, noEquals⟩ := delimited
      have whole : Parser.additive (expressionWithin levels) before = .ok tree after :=
        (ih fits read noFactor).trans (chainFrom_stops noTerm)
      change expressionOver (expressionWithin levels) before = _
      rw [expressionOver, bind_of_ok whole, assignmentFrom, accept_bind_apply, if_neg noEquals]
      rfl
  | @assignment levels targets values equals target value _ isEquals _ targetIH valueIH =>
      obtain ⟨middle, targetRead, valueRead⟩ := read.split
      have heights := fits
      rw [Expr.height_assigned] at heights
      have equalsKind : middle.current.kind = .equals := valueRead.current_eq ▸ isEquals
      have noOperator : middle.current.kind ≠ .operator := by simp [equalsKind]
      have whole : Parser.additive (expressionWithin levels) before = .ok target middle :=
        (targetIH (by omega) targetRead (operatorOf?_eq_none_of_kind noOperator)).trans
          (chainFrom_stops (operatorOf?_eq_none_of_kind noOperator))
      have assigned : expressionWithin levels middle.advanced = .ok value after :=
        valueIH (by omega) valueRead.tail delimited
      change expressionOver (expressionWithin levels) before = _
      rw [expressionOver, bind_of_ok whole, assignmentFrom, accept_bind_apply, if_pos equalsKind,
        if_pos rfl, bind_of_ok assigned, if_pos fits]
      rfl

/-! ## Statements -/

theorem Admits.expression_eq {tokens : List Token} {value : Expr} (admitted : Limited tokens value)
    {before after : TokenStream} (read : Reads before tokens after)
    (operator : after.current.kind ≠ .operator) (equals : after.current.kind ≠ .equals) :
    expression before = .ok value after :=
  admitted.derives.parser_eq admitted.fits read (Stage.delimits_of_kind _ operator equals)

theorem declaration_bare {before after : TokenStream} {keyword name semicolon : Token}
    (named : name.kind = .identifier) (ended : semicolon.kind = .semicolon)
    (read : Reads before [keyword, name, semicolon] after) :
    declaration false before = .ok (.declaration false name.text name.span none) after := by
  have nameCurrent := read.tail.current_eq
  have endCurrent := read.tail.tail.current_eq
  cases read.tail.tail.tail.eq_of_nil
  rw [declaration, current_bind_apply, advance_bind_apply, expect_bind_apply, nameCurrent,
    if_pos named]
  have valueless : initializer false before.current name before.advanced.advanced =
      .ok none before.advanced.advanced.advanced := by
    rw [initializer, accept_bind_apply, endCurrent, if_pos ended, if_pos rfl]
    rfl
  rw [bind_of_ok valueless]
  rfl

theorem declaration_initialized (constant : Bool) {before after : TokenStream}
    {keyword name equals semicolon : Token} {tokens : List Token} {value : Expr}
    (named : name.kind = .identifier) (isEquals : equals.kind = .equals)
    (limited : Limited tokens value) (ended : semicolon.kind = .semicolon)
    (read : Reads before (keyword :: name :: equals :: tokens ++ [semicolon]) after) :
    declaration constant before =
      .ok (.declaration constant name.text name.span (some value)) after := by
  have nameCurrent := read.tail.current_eq
  have equalsCurrent := read.tail.tail.current_eq
  obtain ⟨middle, valueRead, endRead⟩ := read.tail.tail.tail.split
  have endCurrent := endRead.current_eq
  have valued := limited.expression_eq valueRead (by simp [endCurrent, ended])
    (by simp [endCurrent, ended])
  cases endRead.tail.eq_of_nil
  rw [declaration, current_bind_apply, advance_bind_apply, expect_bind_apply, nameCurrent,
    if_pos named]
  have initialized : initializer constant before.current name before.advanced.advanced =
      .ok (some value) middle.advanced := by
    rw [initializer, accept_bind_apply, equalsCurrent, if_neg (by simp [isEquals]),
      if_neg Bool.false_ne_true, expect_bind_apply, equalsCurrent, if_pos isEquals,
      bind_of_ok valued, expect_bind_apply, endCurrent, if_pos ended]
    rfl
  rw [bind_of_ok initialized]
  rfl

theorem expressionStatement_closed {before after : TokenStream} {tokens : List Token} {value : Expr}
    {semicolon : Token} (limited : Limited tokens value) (ended : semicolon.kind = .semicolon)
    (read : Reads before (tokens ++ [semicolon]) after) :
    expressionStatement before = .ok (.expression value) after := by
  obtain ⟨middle, valueRead, endRead⟩ := read.split
  have endCurrent := endRead.current_eq
  have valued := limited.expression_eq valueRead (by simp [endCurrent, ended])
    (by simp [endCurrent, ended])
  cases endRead.tail.eq_of_nil
  have terminated : terminator middle = .ok () middle.advanced := by
    rw [terminator, accept_bind_apply, endCurrent, if_pos ended, if_pos rfl]
    rfl
  rw [expressionStatement, bind_of_ok valued, bind_of_ok terminated]
  rfl

theorem expressionStatement_last {before after : TokenStream} {tokens : List Token} {value : Expr}
    (limited : Limited tokens value) (finished : after.current.kind = .endOfFile)
    (read : Reads before tokens after) :
    expressionStatement before = .ok (.expression value) after := by
  have valued := limited.expression_eq read (by simp [finished]) (by simp [finished])
  have unterminated : terminator after = .ok () after := by
    rw [terminator, accept_bind_apply, if_neg (by simp [finished]), if_neg Bool.false_ne_true,
      current_bind_apply, if_pos finished]
    rfl
  rw [expressionStatement, bind_of_ok valued, bind_of_ok unterminated]
  rfl

/-- No expression starts with the keyword of a declaration. -/
theorem Derives.actionAt_eq {stage : Stage} {levels : Nat} {tokens : List Token} {tree : Expr}
    (derived : Derives stage levels tokens tree) {before after : TokenStream}
    (read : Reads before tokens after) :
    actionAt before.current = expressionStatement := by
  obtain ⟨first, rest, rfl, kind⟩ := derived.exists_first
  rw [read.current_eq]
  unfold actionAt
  rcases kind with kind | kind | kind <;> rw [kind]

theorem DerivesBefore.actionAt_eq {before after : TokenStream} {tokens : List Token}
    {action : Action} (derived : DerivesBefore Limited after.current tokens action)
    (read : Reads before tokens after) : actionAt before.current before = .ok action after := by
  cases derived with
  | closed closed =>
      cases closed with
      | bare keyword name semicolon =>
          rw [actionAt, read.current_eq, keyword]
          exact declaration_bare name semicolon read
      | @initialized constant _ _ _ _ _ _ keyword name equals value semicolon =>
          have declared := declaration_initialized constant name equals value semicolon read
          rw [actionAt, read.current_eq, keyword]
          cases constant <;> exact declared
      | expression value semicolon =>
          obtain ⟨middle, valueRead, -⟩ := read.split
          rw [value.derives.actionAt_eq valueRead]
          exact expressionStatement_closed value semicolon read
  | last value finished =>
      rw [value.derives.actionAt_eq read]
      exact expressionStatement_last value finished read

theorem DerivesBefore.statement_eq {before after : TokenStream} {tokens : List Token}
    {action : Action} (derived : DerivesBefore Limited after.current tokens action)
    (nonempty : tokens ≠ []) (read : Reads before tokens after) :
    statement before = .ok ⟨action, covering tokens⟩ after := by
  rw [statement, current_bind_apply, bind_of_ok (derived.actionAt_eq read),
    read.covering_eq nonempty]
  rfl

theorem Reads.unfinished {before after : TokenStream} {tokens : List Token}
    (read : Reads before tokens after) (nonempty : tokens ≠ [])
    (proper : ∀ token ∈ tokens, token.kind ≠ .endOfFile) : before.current.kind ≠ .endOfFile := by
  cases tokens with
  | nil => exact absurd rfl nonempty
  | cons first rest =>
      rw [read.current_eq]
      exact proper first List.mem_cons_self

theorem DerivesStatements.statements_eq {tokens : List Token} {results : List Statement}
    (derived : DerivesStatements Limited tokens results) {before after : TokenStream}
    (read : Reads before tokens after) (finished : after.current.kind = .endOfFile) :
    statements before = .ok results := by
  induction derived generalizing before with
  | nil =>
      cases read.eq_of_nil
      exact statements_at_end finished
  | last value =>
      have nonempty := value.derives.ne_nil
      have parsed := (DerivesBefore.last value finished).statement_eq nonempty read
      rw [statements_of_ok (read.unfinished nonempty value.derives.proper) parsed,
        statements_at_end finished]
      rfl
  | cons first _ ih =>
      obtain ⟨middle, firstRead, restRead⟩ := read.split
      have proper := first.proper fun value => value.derives.proper
      have parsed := (DerivesBefore.closed first).statement_eq first.ne_nil firstRead
      rw [statements_of_ok (firstRead.unfinished first.ne_nil proper) parsed, ih restRead]
      rfl

/-- A list of tokens forms a program just if its tokens before the first end of file derive it. -/
theorem statements_eq_ok_iff {stream : TokenStream} {results : List Statement} :
    statements stream = .ok results ↔
      DerivesStatements Limited
        (stream.remaining.takeWhile fun token => token.kind ≠ .endOfFile) results := by
  constructor
  · exact statements_sound
  · intro derived
    obtain ⟨after, read, finished⟩ := exists_reads_to_end stream
    exact derived.statements_eq read finished

/-- The programs of a list of tokens, with all spans of the tree. Tokens from the first end of file
on play no part. -/
theorem ofTokens_eq_ok_iff_derives (tokens : List Token) (program : Program) :
    Program.ofTokens tokens = .ok program ↔
      DerivesStatements Limited (tokens.takeWhile fun token => token.kind ≠ .endOfFile)
        program.statements := by
  rw [Program.ofTokens_eq_ok_iff, statements_eq_ok_iff]
  rfl

end CalcScript.Grammar
