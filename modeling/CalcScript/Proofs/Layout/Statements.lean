import CalcScript.Proofs.Lexing.Cuts
import CalcScript.Proofs.Lexing.LongestMatch

/-!
# The statements of a text

The statements of a program lie side by side in its text, with only blanks between and around them,
and each can be cut out of the text and read by itself.
-/

set_option autoImplicit false

namespace CalcScript

open Position Token Grammar

/-- Whether what stands behind so many bytes of a text belongs to a span. -/
def Span.Covers (span : Span) (offset : Nat) : Prop :=
  span.start.offset ≤ offset ∧ offset < span.stop.offset

def Span.Contains (outer inner : Span) : Prop :=
  outer.start.offset ≤ inner.start.offset ∧ inner.stop.offset ≤ outer.stop.offset

instance (outer inner : Span) : Decidable (outer.Contains inner) :=
  inferInstanceAs (Decidable (_ ∧ _))

/-- A text behind other characters is laid with statements. Each is derived from the tokens of its
own stretch, and only blanks are left between the stretches. -/
inductive Laid : List Char → List Char → List Token → List Statement → Prop where
  | blank {before gap : List Char} :
      (∀ character ∈ gap, isBlank character = true) → Laid before gap [] []
  | statement {before gap text rest : List Char} {run tokens : List Token}
      {statement : Statement} {statements : List Statement} :
      (∀ character ∈ gap, isBlank character = true) → Spells (before ++ gap) text run →
      DerivesStatements Limited run [statement] →
      Laid (before ++ (gap ++ text)) rest tokens statements →
      Laid before (gap ++ (text ++ rest)) (run ++ tokens) (statement :: statements)

theorem Grammar.DerivesStatements.span_eq {tokens : List Token} {statement : Statement}
    (derived : DerivesStatements Limited tokens [statement]) :
    statement.span = covering tokens := by
  cases derived with
  | last value => rfl
  | cons first rest =>
      cases rest
      rw [List.append_nil]

/-- What the tokens of a text derive is laid on the text. -/
theorem Grammar.DerivesStatements.laid {run : List Token} {statements : List Statement}
    (derived : DerivesStatements Limited run statements) {before characters : List Char}
    {tokens : List Token} (splits : Splits (behind before) characters tokens)
    (inside : tokens.dropLast = run) : Laid before characters run statements := by
  induction derived generalizing before characters tokens with
  | nil => exact .blank (splits.blank_of_dropLast inside)
  | @last run value expression =>
      rw [← List.append_nil run] at inside
      obtain ⟨gap, text, back, rfl, blank, spells, later⟩ :=
        splits.exists_spells inside expression.derives.ne_nil
      have laid := Laid.statement blank spells (.last expression)
        (.blank (later.blank_of_dropLast List.dropLast_concat))
      rwa [List.append_nil] at laid
  | @cons first rest action statements derived _ ih =>
      obtain ⟨gap, text, back, rfl, blank, spells, later⟩ :=
        splits.exists_spells inside derived.ne_nil
      have alone := DerivesStatements.cons derived .nil
      rw [List.append_nil] at alone
      exact .statement blank spells alone (ih later List.dropLast_concat)

/-! ## What is laid on a text -/

namespace Laid

variable {before characters : List Char} {tokens : List Token} {statements : List Statement}

/-- Every statement has its stretch of the text. -/
theorem exists_stretch (laid : Laid before characters tokens statements) :
    ∀ statement ∈ statements, ∃ front text back run, characters = front ++ (text ++ back) ∧
      Spells (before ++ front) text run ∧ DerivesStatements Limited run [statement] := by
  induction laid with
  | blank => exact List.forall_mem_nil _
  | @statement before gap text rest run tokens first statements blank spells derived _ ih =>
      intro statement among
      rcases List.mem_cons.mp among with rfl | later
      · exact ⟨gap, text, rest, run, rfl, spells, derived⟩
      · obtain ⟨front, own, back, words, rfl, spellsLater, derivedLater⟩ := ih statement later
        rw [List.append_assoc] at spellsLater
        exact ⟨gap ++ text ++ front, own, back, words, by simp, by simpa using spellsLater,
          derivedLater⟩

theorem le_start (laid : Laid before characters tokens statements) :
    ∀ statement ∈ statements, Text.byteLength before ≤ statement.span.start.offset := by
  intro statement among
  obtain ⟨front, text, back, run, -, spells, derived⟩ := laid.exists_stretch statement among
  rw [derived.span_eq, spells.covering_eq]
  simp [behind]

theorem token_bounds (laid : Laid before characters tokens statements) :
    ∀ token ∈ tokens, Text.byteLength before ≤ token.span.start.offset ∧
      token.span.start.offset < token.span.stop.offset := by
  induction laid with
  | blank => exact List.forall_mem_nil _
  | @statement before gap text rest run tokens first statements blank spells _ _ ih =>
      intro token among
      rw [Text.byteLength_append] at ih
      rcases List.mem_append.mp among with here | later
      · have bounds := spells.bounds here
        rw [Text.byteLength_append] at bounds
        omega
      · have bounds := ih token later
        omega

/-- The statements stand one behind the other. -/
theorem pairwise (laid : Laid before characters tokens statements) :
    statements.Pairwise fun earlier later =>
      earlier.span.stop.offset ≤ later.span.start.offset := by
  induction laid with
  | blank => exact .nil
  | statement blank spells derived later ih =>
      refine List.pairwise_cons.mpr ⟨fun statement among => ?_, ih⟩
      rw [derived.span_eq, spells.covering_eq, List.append_assoc]
      exact later.le_start statement among

theorem countP_contains (laid : Laid before characters tokens statements) :
    ∀ token ∈ tokens,
      (statements.countP fun statement => statement.span.Contains token.span) = 1 := by
  induction laid with
  | blank => exact List.forall_mem_nil _
  | @statement before gap text rest run tokens first statements blank spells derived laid ih =>
      intro token among
      have span : first.span = ⟨behind (before ++ gap), behind (before ++ (gap ++ text))⟩ := by
        rw [derived.span_eq, spells.covering_eq, List.append_assoc]
      rcases List.mem_append.mp among with here | later
      · have bounds := spells.bounds here
        rw [List.append_assoc] at bounds
        have inside : first.span.Contains token.span := by
          rw [span]
          exact ⟨bounds.1, bounds.2.2⟩
        have elsewhere : ∀ statement ∈ statements, ¬statement.span.Contains token.span := by
          intro statement amongLater contains
          have start := laid.le_start statement amongLater
          have := contains.1
          omega
        have noOther :
            (statements.countP fun statement => statement.span.Contains token.span) = 0 :=
          List.countP_eq_zero.mpr (by simpa using elsewhere)
        rw [List.countP_cons, noOther, if_pos (decide_eq_true inside)]
      · have bounds := laid.token_bounds token later
        have outside : ¬first.span.Contains token.span := by
          intro contains
          have stop := contains.2
          rw [span] at stop
          change _ ≤ Text.byteLength _ at stop
          omega
        rw [List.countP_cons, ih token later, if_neg (by simpa using outside)]

/-- A character of a text in two parts stands in one of them. -/
theorem in_part_of_append {first second front back : List Char} {character : Char}
    (parts : first ++ second = front ++ character :: back) :
    (∃ more, first = front ++ character :: more) ∨
      ∃ more, front = first ++ more ∧ second = more ++ character :: back := by
  rcases List.append_eq_append_iff.mp parts with ⟨more, split, tail⟩ | ⟨more, split, tail⟩
  · exact .inr ⟨more, split, tail⟩
  · cases more with
    | nil => exact .inr ⟨[], by simpa using split.symm, tail.symm⟩
    | cons same more =>
        cases tail
        exact .inl ⟨more, split⟩

/-- What stands outside all statements is blank. -/
theorem blank_of_uncovered (laid : Laid before characters tokens statements) :
    ∀ front character back, characters = front ++ character :: back →
      (∀ statement ∈ statements, ¬statement.span.Covers (Text.byteLength (before ++ front))) →
      isBlank character = true := by
  induction laid with
  | blank blank =>
      rintro front character back rfl _
      exact blank character (by simp)
  | @statement before gap text rest run tokens first statements blank spells derived laid ih =>
      intro front character back parts uncovered
      obtain ⟨notFirst, notLater⟩ := List.forall_mem_cons.mp uncovered
      rcases in_part_of_append parts with ⟨more, rfl⟩ | ⟨inner, rfl, rest⟩
      · exact blank character (by simp)
      rcases in_part_of_append rest with ⟨more, rfl⟩ | ⟨last, rfl, rfl⟩
      · -- the character belongs to the first statement
        refine absurd ⟨?_, ?_⟩ notFirst
        · simp [derived.span_eq, spells.covering_eq, behind]
        · have positive := character.utf8Size_pos
          simp [derived.span_eq, spells.covering_eq, behind]
          omega
      · apply ih last character back rfl
        simpa using notLater

end Laid

/-- The statements of a program partition the text that they were read from, and each stands on
its own. -/
structure Program.Partitions (program : Program) (source : String) (tokens : List Token) :
    Prop where
  /-- They stand in their order, one behind the other. -/
  ordered : program.statements.Pairwise fun earlier later =>
    earlier.span.stop.offset ≤ later.span.start.offset
  /-- Every token but the end belongs to just one of them. -/
  holds : ∀ token ∈ tokens, token.kind ≠ .endOfFile →
    (program.statements.countP fun statement => statement.span.Contains token.span) = 1
  /-- Only blanks belong to none. -/
  blank : ∀ before character after, source.toList = before ++ character :: after →
    (∀ statement ∈ program.statements, ¬statement.span.Covers (Text.byteLength before)) →
    character ∈ Token.blanks
  /-- Read by itself, the text of each is that statement again. -/
  alone : ∀ statement ∈ program.statements, ∃ text other,
    statement.span.extract? source = some text ∧ Program.ofSource text = .ok ⟨[other]⟩ ∧
      other.unplaced = statement.unplaced

theorem Program.partitions_source {source : String} {tokens : List Token} {program : Program}
    (scanned : Token.scan source = .ok tokens) (formed : Program.ofSource source = .ok program) :
    program.Partitions source tokens := by
  have splits := scan_eq_ok_iff.mp scanned
  obtain ⟨same, again, derived⟩ := Program.ofSource_eq_ok_iff_derives.mp formed
  cases again.symm.trans scanned
  have laid : Laid [] source.toList tokens.dropLast program.statements := derived.laid splits rfl
  constructor
  case ordered => exact laid.pairwise
  case holds =>
    intro token among proper
    apply laid.countP_contains
    rw [splits.eq_concat_end] at among
    rcases List.mem_append.mp among with inside | last
    · exact inside
    · cases List.mem_singleton.mp last
      exact absurd rfl proper
  case blank =>
    intro before character after parts uncovered
    exact isBlank_iff.mp (laid.blank_of_uncovered before character after parts uncovered)
  case alone =>
    intro statement among
    obtain ⟨front, text, back, run, parts, spells, derived⟩ := laid.exists_stretch statement among
    obtain ⟨⟨statements⟩, formed, unplaced⟩ := spells.exists_ofSource derived
    obtain ⟨other, rfl, same⟩ := List.map_eq_singleton_iff.mp (congrArg Program.statements unplaced)
    refine ⟨_, other, ?_, formed, same⟩
    rw [derived.span_eq, spells.covering_eq]
    exact Span.extract?_behind parts

/-- A declaration and an expression between blanks, on two lines. -/
theorem Program.partitions_two_lines :
    ∃ tokens program, Token.scan " let a;\n(b) " = .ok tokens ∧
      Program.ofSource " let a;\n(b) " = .ok program ∧
      program.statements.map Statement.span =
        [⟨⟨1, 1, 2⟩, ⟨7, 1, 8⟩⟩, ⟨⟨8, 2, 1⟩, ⟨11, 2, 4⟩⟩] ∧
      program.Partitions " let a;\n(b) " tokens := by
  have scanned : Token.scan " let a;\n(b) " = .ok
      [⟨.letKeyword, "let", ⟨1, 1, 2⟩, ⟨4, 1, 5⟩⟩, ⟨.identifier, "a", ⟨5, 1, 6⟩, ⟨6, 1, 7⟩⟩,
        ⟨.semicolon, ";", ⟨6, 1, 7⟩, ⟨7, 1, 8⟩⟩, ⟨.openParen, "(", ⟨8, 2, 1⟩, ⟨9, 2, 2⟩⟩,
        ⟨.identifier, "b", ⟨9, 2, 2⟩, ⟨10, 2, 3⟩⟩, ⟨.closeParen, ")", ⟨10, 2, 3⟩, ⟨11, 2, 4⟩⟩,
        .endOfFile ⟨12, 2, 5⟩] :=
    ok_of_toOption_eq_some (by decide +kernel)
  have group : Derives .expression Parser.maxNesting
      [⟨.openParen, "(", ⟨8, 2, 1⟩, ⟨9, 2, 2⟩⟩, ⟨.identifier, "b", ⟨9, 2, 2⟩, ⟨10, 2, 3⟩⟩,
        ⟨.closeParen, ")", ⟨10, 2, 3⟩, ⟨11, 2, 4⟩⟩] (.name "b" ⟨⟨9, 2, 2⟩, ⟨10, 2, 3⟩⟩) :=
    .plain (.term (.factor (.group rfl (.plain (.term (.factor (.name rfl)))) rfl)))
  have formed := Program.ofSource_eq_ok_iff_derives.mpr
    ⟨_, scanned, .cons (.bare rfl rfl rfl) (.last ⟨group, by decide⟩)⟩
  exact ⟨_, _, scanned, formed, by decide, Program.partitions_source scanned formed⟩

end CalcScript
