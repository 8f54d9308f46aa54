import CalcScript.Proofs.Grammar.Checks

/-!
# The token to blame

A program that is rejected for a token is rejected for the first one that cannot carry it on. What
was read before that token begins some program, as does what was read with a token of the kind that
was expected. With the token that was found it begins none. The tokens behind it are never looked
at. Limits are left aside in what begins a program.
-/

set_option autoImplicit false

namespace CalcScript

/-- The token that was found in place of another. -/
def SyntaxFault.found? : SyntaxFault → Option Token
  | expectedToken _ found => some found
  | expectedExpression found => some found
  | uninitializedConstant _ => none
  | nestedTooDeep _ => none

/-- A token that would have carried on where a fault was found. -/
def SyntaxFault.Wants : SyntaxFault → Token → Prop
  | expectedToken expected _, token => token.kind = expected
  | expectedExpression _, token => token.kind = .identifier
  | uninitializedConstant _, _ => False
  | nestedTooDeep _, _ => False

theorem SyntaxFault.exists_wanted {fault : SyntaxFault} {found : Token}
    (blamed : fault.found? = some found) : ∃ token, fault.Wants token := by
  cases fault with
  | expectedToken expected _ => exact ⟨⟨expected, "", Span.unplaced⟩, rfl⟩
  | expectedExpression _ => exact ⟨⟨.identifier, "", Span.unplaced⟩, rfl⟩
  | uninitializedConstant _ => cases blamed
  | nestedTooDeep _ => cases blamed

namespace Grammar

open CalcScript.Parser

variable {next token found : Token} {tokens read : List Token} {error : SyntaxError}

/-! ## What was read can be completed -/

/-- Tokens that some tree of a stage begins with. -/
def BeginsTree (stage : Stage) (tokens : List Token) : Prop :=
  ∃ levels more tree, Derives stage levels (tokens ++ more) tree

theorem BeginsTree.lift {stage outer : Stage} (begins : BeginsTree stage tokens)
    (rule : ∀ {levels whole tree}, Derives stage levels whole tree →
      Derives outer (levels + 1) whole tree) : BeginsTree outer tokens := by
  obtain ⟨levels, more, tree, derives⟩ := begins
  exact ⟨levels + 1, more, tree, rule derives⟩

/-- Two derivations can be given the same depth. -/
theorem BeginsTree.behind {levels : Nat} {lefts : List Token} {left : Expr}
    {stage inner outer : Stage} (derived : Derives stage levels lefts left)
    (begins : BeginsTree inner tokens) {sign : Token} {join : Expr → Expr → Expr}
    (rule : ∀ {depth rights right}, Derives stage depth lefts left →
      Derives inner depth rights right →
      Derives outer (depth + 1) (lefts ++ sign :: rights) (join left right)) :
    BeginsTree outer (lefts ++ sign :: tokens) := by
  obtain ⟨depth, more, right, derives⟩ := begins
  have deepLeft := derived.atDepth (Nat.le_max_left levels depth)
  have deepRight := derives.atDepth (Nat.le_max_right levels depth)
  refine ⟨max levels depth + 1, more, join left right, ?_⟩
  rw [List.append_assoc]
  exact rule deepLeft deepRight

/-- Where an expression breaks off, a token that is wanted carries it on. -/
theorem Fails.begins {stage : Stage} {levels : Nat}
    (fails : Fails next stage levels tokens error) (wanted : error.fault.Wants token) :
    BeginsTree stage (tokens ++ [token]) := by
  induction fails with
  | operand => exact ⟨0, [], _, .name wanted⟩
  | @group _ opening _ _ opens _ ih =>
      obtain ⟨depth, more, tree, derives⟩ := ih wanted
      refine ⟨depth, more ++ [⟨.closeParen, ")", Span.unplaced⟩], tree, ?_⟩
      rw [← List.append_assoc]
      exact .group opens derives rfl
  | @unclosed levels _ _ tree opens inner =>
      refine ⟨levels, [], tree, ?_⟩
      rw [List.append_nil]
      exact .group opens inner.derives wanted
  | factor _ ih => exact (ih wanted).lift fun operand => .factor operand.deeper
  | term _ ih => exact (ih wanted).lift fun operand => .term operand.deeper
  | target _ ih => exact (ih wanted).lift .plain
  | product left sign staged _ ih =>
      rw [List.append_assoc]
      exact (ih wanted).behind left.derives fun operand further =>
        .product operand.deeper sign staged further.deeper
  | sum left sign staged _ ih =>
      rw [List.append_assoc]
      exact (ih wanted).behind left.derives fun operand further =>
        .sum operand.deeper sign staged further.deeper
  | value target equals _ ih =>
      rw [List.append_assoc]
      exact (ih wanted).behind target.derives fun operand further =>
        .assignment operand equals further
  | highProduct | highSum | nesting | highAssignment => cases wanted

/-- Tokens that some program begins with. -/
def Begins (tokens : List Token) : Prop :=
  ∃ more results, DerivesStatements Unlimited (tokens ++ more) results

theorem Begins.of_append {more : List Token} (begins : Begins (tokens ++ more)) :
    Begins tokens := by
  obtain ⟨rest, results, derives⟩ := begins
  rw [List.append_assoc] at derives
  exact ⟨more ++ rest, results, derives⟩

theorem begins_of_action (more : List Token) {action : Action}
    (derived : DerivesAction Unlimited (tokens ++ more) action) : Begins tokens := by
  have whole := DerivesStatements.cons derived .nil
  rw [List.append_nil] at whole
  exact ⟨more, _, whole⟩

theorem BeginsTree.declaration (begins : BeginsTree .expression tokens) {constant : Bool}
    {keyword name equals : Token} (isKeyword : keyword.kind = keywordKind constant)
    (named : name.kind = .identifier) (isEquals : equals.kind = .equals) :
    Begins (keyword :: name :: equals :: tokens) := by
  obtain ⟨depth, more, tree, derives⟩ := begins
  apply begins_of_action (more ++ [⟨.semicolon, ";", Span.unplaced⟩])
  rw [List.cons_append, List.cons_append, List.cons_append, ← List.append_assoc]
  exact .initialized isKeyword named isEquals ⟨depth, derives⟩ rfl

theorem BeginsTree.statement (begins : BeginsTree .expression tokens) : Begins tokens := by
  obtain ⟨depth, more, tree, derives⟩ := begins
  exact ⟨more, _, .last ⟨depth, derives⟩⟩

/-- A name of no account, where an expression is still to come. -/
theorem beginsTree_nil : BeginsTree .expression [] :=
  ⟨1, [⟨.identifier, "a", Span.unplaced⟩], _, .plain (.term (.factor (.name rfl)))⟩

theorem FailsStatement.begins (fails : FailsStatement next tokens error)
    (wanted : error.fault.Wants token) : Begins (tokens ++ [token]) := by
  cases fails with
  | unnamed keyword =>
      let equals : Token := ⟨.equals, "=", Span.unplaced⟩
      have valued : Begins ([_, token] ++ [equals]) := beginsTree_nil.declaration keyword wanted rfl
      exact valued.of_append
  | uninitialized => cases wanted
  | unvalued keyword name => exact beginsTree_nil.declaration keyword name wanted
  | value keyword name equals value => exact (value.begins wanted).declaration keyword name equals
  | unterminated keyword name equals value =>
      apply begins_of_action []
      rw [List.append_nil]
      exact .initialized keyword name equals value.unlimited wanted
  | expression value => exact (value.begins wanted).statement
  | unended value =>
      apply begins_of_action []
      rw [List.append_nil]
      exact .expression value.unlimited wanted

theorem FailsStatements.begins (fails : FailsStatements next tokens error)
    (wanted : error.fault.Wants token) : Begins (tokens ++ [token]) := by
  induction fails with
  | first fails => exact fails.begins wanted
  | later first _ ih =>
      obtain ⟨more, results, derives⟩ := ih wanted
      have whole := DerivesStatements.cons first.unlimited derives
      rw [← List.append_assoc, ← List.append_assoc] at whole
      exact ⟨more, _, whole⟩

/-! ## What was found cannot carry on -/

/-- A token that is found is the one in front of the parser. -/
theorem Fails.found_eq {stage : Stage} {levels : Nat} (fails : Fails next stage levels tokens error)
    (blamed : error.fault.found? = some found) : found = next ∧ error.span = next.span := by
  induction fails with
  | operand | unclosed =>
      cases blamed
      exact ⟨rfl, rfl⟩
  | group _ _ ih | factor _ ih | product _ _ _ _ ih | term _ ih | sum _ _ _ _ ih | target _ ih
  | value _ _ _ ih => exact ih blamed
  | highProduct | highSum | nesting | highAssignment => cases blamed

theorem FailsStatement.found_eq (fails : FailsStatement next tokens error)
    (blamed : error.fault.found? = some found) : found = next ∧ error.span = next.span := by
  cases fails with
  | unnamed | unvalued | unterminated | unended =>
      cases blamed
      exact ⟨rfl, rfl⟩
  | uninitialized => cases blamed
  | value _ _ _ value | expression value => exact value.found_eq blamed

theorem FailsStatements.found_eq (fails : FailsStatements next tokens error)
    (blamed : error.fault.found? = some found) : found = next ∧ error.span = next.span := by
  induction fails with
  | first fails => exact fails.found_eq blamed
  | later _ _ ih => exact ih blamed

theorem not_tooDeep_of_found (blamed : error.fault.found? = some found) : ¬ TooDeep error := by
  rintro ⟨limit, deep⟩
  rw [deep] at blamed
  cases blamed

/-- The tokens behind the one that is to blame play no part. -/
theorem FailsStatements.ofTokens_eq (fails : FailsStatements next tokens error)
    (others : List Token) : Program.ofTokens (tokens ++ next :: others) = .error error := by
  let ahead : TokenStream := ⟨next :: others, lastSpan Span.unplaced tokens⟩
  have read : Reads (TokenStream.ofList (tokens ++ next :: others)) tokens ahead := ⟨rfl, rfl⟩
  have facing : FailsStatements ahead.current tokens error := fails
  rw [Program.ofTokens, facing.statements_eq read]
  rfl

theorem statements_of_ofTokens (rejected : Program.ofTokens tokens = .error error) :
    statements (TokenStream.ofList tokens) = .error error := by
  rw [Program.ofTokens] at rejected
  cases parsed : statements (TokenStream.ofList tokens) with
  | ok results =>
      rw [parsed] at rejected
      cases rejected
  | error other =>
      rw [parsed] at rejected
      cases rejected
      rfl

/-- Tokens that are rejected for one of them derive nothing. -/
theorem not_derives_of_rejected (blamed : error.fault.found? = some found)
    (rejected : Program.ofTokens tokens = .error error) {results : List Statement} :
    ¬ DerivesStatements Unlimited (tokens.takeWhile fun token => token.kind ≠ .endOfFile)
      results := by
  intro derived
  obtain ⟨after, read, finished⟩ := exists_reads_to_end (TokenStream.ofList tokens)
  have deep := derived.tooDeep_of_rejected read finished (statements_of_ofTokens rejected)
  exact not_tooDeep_of_found blamed deep

theorem DerivesStatements.takeWhile_append {results : List Statement}
    (derived : DerivesStatements Unlimited tokens results) (rest : List Token) :
    (tokens ++ rest).takeWhile (fun token => token.kind ≠ .endOfFile) =
      tokens ++ rest.takeWhile fun token => token.kind ≠ .endOfFile := by
  have proper := derived.proper Unlimited.proper
  exact List.takeWhile_append_of_pos (by simpa using proper)

theorem FailsStatements.not_begins (fails : FailsStatements next tokens error)
    (blamed : error.fault.found? = some found) : ¬ Begins (tokens ++ [next]) := by
  rintro ⟨more, results, derives⟩
  have whole := derives.takeWhile_append []
  rw [List.takeWhile_nil, List.append_nil, List.append_assoc] at whole
  apply not_derives_of_rejected blamed (fails.ofTokens_eq more)
  rw [List.append_assoc] at derives
  exact whole ▸ derives

/-- At the end of file the tokens before it are no program. -/
theorem FailsStatements.not_derives (fails : FailsStatements next tokens error)
    (blamed : error.fault.found? = some found) (finished : next.kind = .endOfFile)
    {results : List Statement} : ¬ DerivesStatements Unlimited tokens results := by
  intro derives
  have whole := derives.takeWhile_append [next]
  rw [List.takeWhile_cons_of_neg (by simp [finished]), List.append_nil] at whole
  apply not_derives_of_rejected blamed (fails.ofTokens_eq [])
  exact whole.symm ▸ derives

/-! ## Constants without a value -/

/-- Statements within the limits that all have their semicolon. -/
def Complete (tokens : List Token) : Prop :=
  (∃ results, DerivesStatements Limited tokens results) ∧
    ∀ last ∈ tokens.getLast?, last.kind = .semicolon

theorem complete_nil : Complete [] := ⟨⟨[], .nil⟩, fun _ ended => nomatch ended⟩

theorem DerivesAction.last_semicolon {action : Action}
    (derived : DerivesAction Limited tokens action) :
    ∀ last ∈ tokens.getLast?, last.kind = .semicolon := by
  cases derived with
  | bare _ _ semicolon => simpa using semicolon
  | initialized _ _ _ _ semicolon | expression _ semicolon =>
      intro last ended
      rw [Option.mem_def, List.getLast?_concat] at ended
      cases ended
      exact semicolon

theorem Complete.cons {first rest : List Token} {action : Action}
    (derived : DerivesAction Limited first action) (complete : Complete rest) :
    Complete (first ++ rest) := by
  obtain ⟨⟨results, derives⟩, closed⟩ := complete
  refine ⟨⟨_, .cons derived derives⟩, fun last ended => ?_⟩
  rw [Option.mem_def, List.getLast?_append] at ended
  cases inRest : rest.getLast? with
  | none =>
      rw [inRest, Option.none_or] at ended
      exact derived.last_semicolon last ended
  | some other =>
      rw [inRest, Option.some_or] at ended
      exact closed last (inRest.trans ended)

/-- Complete statements do not keep what follows from failing. -/
theorem Complete.fails {complete rest : List Token} (statements : Complete complete)
    (fails : FailsStatements next rest error) : FailsStatements next (complete ++ rest) error := by
  obtain ⟨⟨results, derives⟩, closed⟩ := statements
  induction derives with
  | nil => exact fails
  | last value =>
      have nonempty := value.derives.ne_nil
      have kind := closed _ (List.getLast?_eq_some_getLast nonempty)
      have inner := value.derives.inner _ (List.getLast_mem nonempty)
      rw [kind] at inner
      cases inner
  | cons first _ ih =>
      rw [List.append_assoc]
      refine .later first (ih fun last ended => closed last ?_)
      rw [Option.mem_def] at ended ⊢
      rw [List.getLast?_append, ended]
      rfl

theorem Fails.initialized {stage : Stage} {levels : Nat}
    (fails : Fails next stage levels tokens error) (name : String) :
    error.fault ≠ .uninitializedConstant name := by
  induction fails with
  | operand | unclosed | highProduct | highSum | nesting | highAssignment => exact nofun
  | group _ _ ih | factor _ ih | product _ _ _ _ ih | term _ ih | sum _ _ _ _ ih | target _ ih
  | value _ _ _ ih => exact ih

/-- What comes before the statement that breaks off is complete. -/
theorem FailsStatements.exists_last (fails : FailsStatements next tokens error) :
    ∃ complete rest, tokens = complete ++ rest ∧ Complete complete ∧
      FailsStatement next rest error := by
  induction fails with
  | first fails => exact ⟨[], _, rfl, complete_nil, fails⟩
  | later first _ ih =>
      obtain ⟨complete, rest, rfl, statements, fails⟩ := ih
      refine ⟨_ ++ complete, rest, ?_, statements.cons first, fails⟩
      rw [List.append_assoc]

/-- A constant without a value stands behind complete statements. -/
theorem FailsStatements.exists_uninitialized (fails : FailsStatements next tokens error)
    {name : String} (lacking : error.fault = .uninitializedConstant name) :
    ∃ complete keyword named semicolon, tokens = complete ++ [keyword, named, semicolon] ∧
      Complete complete ∧ keyword.kind = .constKeyword ∧ named.kind = .identifier ∧
      semicolon.kind = .semicolon ∧
      error = ⟨.uninitializedConstant named.text, keyword.span.join semicolon.span⟩ := by
  obtain ⟨complete, rest, rfl, statements, fails⟩ := fails.exists_last
  cases fails with
  | unnamed | unvalued | unterminated | unended => cases lacking
  | uninitialized keyword named semicolon =>
      exact ⟨complete, _, _, _, rfl, statements, keyword, named, semicolon, rfl⟩
  | value _ _ _ value | expression value => exact absurd lacking (value.initialized name)

theorem ofTokens_of_uninitialized {complete rest : List Token} {keyword named semicolon : Token}
    (statements : Complete complete) (isKeyword : keyword.kind = .constKeyword)
    (isName : named.kind = .identifier) (isSemicolon : semicolon.kind = .semicolon) :
    Program.ofTokens (complete ++ keyword :: named :: semicolon :: rest) =
      .error ⟨.uninitializedConstant named.text, keyword.span.join semicolon.span⟩ := by
  let after : TokenStream :=
    ⟨rest, lastSpan Span.unplaced (complete ++ [keyword, named, semicolon])⟩
  have read : Reads (TokenStream.ofList (complete ++ keyword :: named :: semicolon :: rest))
      (complete ++ [keyword, named, semicolon]) after := by
    refine ⟨?_, rfl⟩
    rw [List.append_assoc]
    rfl
  have fails : FailsStatement after.current _ _ := .uninitialized isKeyword isName isSemicolon
  have whole := statements.fails (.first fails fun _ => List.cons_ne_nil _ _)
  rw [Program.ofTokens, whole.statements_eq read]
  rfl

/-! ## Rejected programs -/

/-- Where the token stands that a program is rejected for: behind what was read, or at the end of
all tokens if they lack an end of file. -/
def FoundBehind (tokens read : List Token) (found : Token) : Prop :=
  (∃ rest, tokens = read ++ found :: rest) ∨
    tokens = read ∧ found = Token.endOfFile (lastSpan Span.unplaced read).stop

theorem foundBehind_of_reads {after : TokenStream}
    (reads : Reads (TokenStream.ofList tokens) read after) :
    FoundBehind tokens read after.current := by
  obtain ⟨remaining, last⟩ := after
  obtain ⟨ahead, behind⟩ := reads
  cases remaining with
  | cons token rest => exact .inl ⟨rest, ahead⟩
  | nil =>
      refine .inr ⟨ahead.trans (List.append_nil read), ?_⟩
      cases behind
      rfl

/-- A program that is rejected for a token is rejected for the first that cannot carry it on. One
that is rejected for a constant without a value has complete statements before it. -/
theorem ofTokens_blames_first (tokens : List Token) :
    (∀ error found, Program.ofTokens tokens = .error error → error.fault.found? = some found →
      error.span = found.span ∧ ∃ read, FoundBehind tokens read found ∧
        Begins read ∧ ¬ Begins (read ++ [found]) ∧
        (found.kind = .endOfFile → ¬ ∃ results, DerivesStatements Unlimited read results) ∧
        (∀ expected token, error.fault = .expectedToken expected found → token.kind = expected →
          Begins (read ++ [token])) ∧
        ∀ others, Program.ofTokens (read ++ found :: others) = .error error) ∧
    ∀ name span, Program.ofTokens tokens = .error ⟨.uninitializedConstant name, span⟩ ↔
      ∃ complete keyword named semicolon rest,
        tokens = complete ++ keyword :: named :: semicolon :: rest ∧ Complete complete ∧
        keyword.kind = .constKeyword ∧ named.kind = .identifier ∧ semicolon.kind = .semicolon ∧
        named.text = name ∧ keyword.span.join semicolon.span = span := by
  refine ⟨fun error found rejected blamed => ?_, fun name span => ⟨fun rejected => ?_, ?_⟩⟩
  · obtain ⟨read, after, reads, fails⟩ := statements_blames (statements_of_ofTokens rejected)
    obtain ⟨rfl, place⟩ := fails.found_eq blamed
    obtain ⟨wanted, wants⟩ := SyntaxFault.exists_wanted blamed
    refine ⟨place, read, foundBehind_of_reads reads, (fails.begins wants).of_append,
      fails.not_begins blamed, ?_, ?_, fails.ofTokens_eq⟩
    · rintro finished ⟨results, derives⟩
      exact fails.not_derives blamed finished derives
    · intro expected token fault kind
      apply fails.begins
      rw [fault]
      exact kind
  · obtain ⟨read, after, reads, fails⟩ := statements_blames (statements_of_ofTokens rejected)
    obtain ⟨complete, keyword, named, semicolon, rfl, statements, isKeyword, isName, isSemicolon,
      same⟩ := fails.exists_uninitialized rfl
    cases same
    refine ⟨complete, keyword, named, semicolon, after.remaining, ?_, statements, isKeyword,
      isName, isSemicolon, rfl, rfl⟩
    have ahead := reads.ahead
    rw [List.append_assoc] at ahead
    exact ahead
  · rintro ⟨complete, keyword, named, semicolon, rest, rfl, statements, isKeyword, isName,
      isSemicolon, rfl, rfl⟩
    exact ofTokens_of_uninitialized statements isKeyword isName isSemicolon

end Grammar

end CalcScript
