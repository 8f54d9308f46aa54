import CalcScript.Proofs.Layout.Moved
import CalcScript.Proofs.Lexing.Split

/-!
# Texts in two parts

A text in two parts is split like its parts, if no run of digits and no word reaches over the seam
between them. The end of the first part is then no token any more, and the tokens of the second part
stand where the first part ends.
-/

set_option autoImplicit false

namespace CalcScript.Token

/-- No number and no word reaches over the seam between two texts. -/
def Seam (first second : List Char) : Prop :=
  ∀ left ∈ first.getLast?, ∀ right ∈ second.head?,
    ¬(Number.isDigit left = true ∧ Number.isDigit right = true) ∧
      ¬(Text.isCased left = true ∧ Text.isCased right = true)

theorem Seam.of_append {front back second : List Char} (seam : Seam (front ++ back) second) :
    Seam back second := by
  intro left last right first
  refine seam left ?_ right first
  rw [Option.mem_def] at last ⊢
  rw [List.getLast?_append, last]
  rfl

theorem Longest.append {accepts : Char → Bool} {run rest : List Char}
    (longest : Longest accepts run rest) {more : List Char}
    (apart : ∀ left ∈ (run ++ rest).getLast?, ∀ right ∈ more.head?,
      ¬(accepts left = true ∧ accepts right = true)) (nonempty : run ≠ []) :
    Longest accepts run (rest ++ more) where
  accepted := longest.accepted
  ends := by
    intro character first
    cases rest with
    | cons initial later => exact longest.ends character first
    | nil =>
        rw [List.append_nil] at apart
        have last := longest.accepted _ (List.getLast_mem nonempty)
        have refused := apart _ (List.getLast?_eq_some_getLast nonempty) character first
        simpa [last] using refused

theorem Lexeme.append {kind : TokenKind} {run rest : List Char} (lexeme : Lexeme kind run rest)
    {second : List Char} (seam : Seam (run ++ rest) second) :
    Lexeme kind run (rest ++ second) := by
  cases lexeme with
  | symbol symbol => exact .symbol symbol
  | number nonempty longest =>
      refine .number nonempty (longest.append (fun left last right first => ?_) nonempty)
      exact (seam left last right first).1
  | word nonempty longest =>
      refine .word nonempty (longest.append (fun left last right first => ?_) nonempty)
      exact (seam left last right first).2

/-- Blanks in front of a text are passed over. -/
theorem Splits.gap_append {place : Position} {gap characters : List Char} {tokens : List Token}
    (blank : ∀ character ∈ gap, isBlank character = true)
    (splits : Splits (place.advance gap) characters tokens) :
    Splits place (gap ++ characters) tokens := by
  have joined (characters : List Char) :
      (place.advance gap).advance characters = place.advance (gap ++ characters) :=
    (place.advance_append gap characters).symm
  cases splits with
  | @stop _ more moreBlank =>
      rw [joined]
      exact .stop (List.forall_mem_append.mpr ⟨blank, moreBlank⟩)
  | @token _ more run rest kind tokens moreBlank found later =>
      rw [joined, ← List.append_assoc] at later
      rw [joined, joined, ← List.append_assoc gap more, ← List.append_assoc gap more]
      exact .token (List.forall_mem_append.mpr ⟨blank, moreBlank⟩) found later

theorem Splits.append {place : Position} {first second : List Char} {tokens later : List Token}
    (splits : Splits place first tokens) (seam : Seam first second)
    (rest : Splits (place.advance first) second later) :
    Splits place (first ++ second) (tokens.dropLast ++ later) := by
  induction splits with
  | stop blank => exact .gap_append blank rest
  | @token place gap run middle kind tokens blank found splits ih =>
      rw [List.dropLast_cons_of_ne_nil splits.ne_nil, List.cons_append, List.append_assoc,
        List.append_assoc]
      refine .token blank (found.append seam.of_append) (ih seam.of_append.of_append ?_)
      rw [← Position.advance_append, List.append_assoc]
      exact rest

theorem Splits.plus {place : Position} {characters : List Char} {tokens : List Token}
    (splits : Splits place characters tokens) (origin : Position) (line : 1 ≤ place.line) :
    Splits (origin.plus place) characters (tokens.map (Token.moved origin.plus)) := by
  induction splits with
  | @stop place gap blank =>
      have moved : (endOfFile (place.advance gap)).moved origin.plus =
          endOfFile ((origin.plus place).advance gap) := by
        rw [← Position.plus_advance line]
        rfl
      rw [List.map_singleton, moved]
      exact .stop blank
  | @token place gap run rest kind tokens blank found _ ih =>
      have later := ih (Nat.le_trans line (place.le_line_advance _))
      rw [Position.plus_advance line] at later
      rw [List.map_cons, Token.moved, Span.moved, Position.plus_advance line,
        Position.plus_advance line]
      exact .token blank found later

/-- A text whose two parts are split apart from each other. -/
theorem scan_append {first second : String} {tokens later : List Token}
    (scanned : scan first = .ok tokens) (scannedLater : scan second = .ok later)
    (seam : Seam first.toList second.toList) :
    scan (first ++ second) =
      .ok (tokens.dropLast ++ later.map (Token.moved (Position.ofEnd first).plus)) := by
  rw [scan_eq_ok_iff] at *
  rw [String.toList_append]
  refine scanned.append seam ?_
  have moved := scannedLater.plus (Position.ofEnd first) (Nat.le_refl _)
  rw [Position.plus_ofEnd_start] at moved
  exact moved

/-! ## Texts that end with a semicolon -/

/-- The tokens of a text that is blank or ends with a semicolon, the end of the text left aside. -/
def Closed (tokens : List Token) : Prop :=
  ∀ token ∈ tokens.dropLast.getLast?, token.kind = .semicolon

instance (tokens : List Token) : Decidable (Closed tokens) :=
  inferInstanceAs (Decidable (∀ token ∈ tokens.dropLast.getLast?, token.kind = .semicolon))

theorem Splits.of_nil {place : Position} {tokens : List Token} (splits : Splits place [] tokens) :
    tokens = [endOfFile place] := by
  generalize nothing : ([] : List Char) = characters at splits
  cases splits with
  | stop blank =>
      subst nothing
      rfl
  | token _ found =>
      have empty := (List.append_eq_nil_iff.mp (List.append_eq_nil_iff.mp nothing.symm).2).1
      exact absurd empty found.ne_nil

theorem Lexeme.eq_semicolon {run rest : List Char} (lexeme : Lexeme .semicolon run rest) :
    run = [';'] := by
  generalize semicolon : TokenKind.semicolon = kind at lexeme
  cases lexeme with
  | @symbol character kind rest symbol =>
      subst semicolon
      unfold symbolKind? at symbol
      split at symbol <;> cases symbol
      rfl
  | number => cases semicolon
  | word =>
      unfold wordKind TokenKind.keyword? at semicolon
      split at semicolon
      · cases semicolon
      · split at semicolon <;> cases semicolon

theorem Splits.last_of_closed {place : Position} {characters : List Char} {tokens : List Token}
    (splits : Splits place characters tokens) (closed : Closed tokens) :
    ∀ last ∈ characters.getLast?, isBlank last = true ∨ last = ';' := by
  induction splits with
  | stop blank => exact fun last ended => .inl (blank last (List.mem_of_getLast? ended))
  | @token place gap run rest kind tokens blank found splits ih =>
      intro last ended
      cases rest with
      | nil =>
          -- this is the last token, so it is the semicolon
          cases splits.of_nil
          cases show kind = .semicolon from closed _ rfl
          cases found.eq_semicolon
          rw [List.append_nil, List.getLast?_concat] at ended
          cases ended
          exact .inr rfl
      | cons initial later =>
          refine ih (fun token among => closed token ?_) last ?_
          · rw [List.dropLast_cons_of_ne_nil splits.ne_nil, List.getLast?_cons,
              Option.mem_def.mp among]
            rfl
          · rw [← List.append_assoc, List.getLast?_append, List.getLast?_cons] at ended
            rwa [List.getLast?_cons]

theorem Splits.seam_of_closed {place : Position} {first : List Char} {tokens : List Token}
    (splits : Splits place first tokens) (closed : Closed tokens) (second : List Char) :
    Seam first second := by
  intro left last right _
  have classes : Number.isDigit left = false ∧ Text.isCased left = false := by
    rcases splits.last_of_closed closed left last with blank | rfl
    · exact (classes_of_blank blank).2
    · decide
  simp [classes.1, classes.2]

end CalcScript.Token
