import CalcScript.Proofs.Lexing.Places

/-!
# The longest match

A text as a row of pieces, each a token behind blanks, and blanks at its end. Which runs are tokens
is said character by character: a symbol, or all the digits or cased characters that stand together.
The tokens of a text are those of its pieces, each at the place behind the characters before it.
-/

set_option autoImplicit false

namespace CalcScript.Token

open Position

/-- The symbols with their kinds. -/
def symbolTable : List (Char × TokenKind) :=
  [('(', .openParen), (')', .closeParen), ('+', .operator), ('-', .operator), ('*', .operator),
    ('/', .operator), ('%', .operator), ('=', .equals), (';', .semicolon)]

/-- A run that is a token of a kind in front of the rest of a text, which does not carry it on. -/
inductive Munch : TokenKind → List Char → List Char → Prop where
  | symbol {character : Char} {kind : TokenKind} {rest : List Char} :
      (character, kind) ∈ symbolTable → Munch kind [character] rest
  | number {run rest : List Char} :
      run ≠ [] → (∀ character ∈ run, character.isDigit = true) →
      (∀ character ∈ rest.head?, character.isDigit = false) → Munch .number run rest
  | word {run rest : List Char} :
      run ≠ [] → (∀ character ∈ run, Text.isCased character = true) →
      (∀ character ∈ rest.head?, Text.isCased character = false) →
      Munch (if run = ['l', 'e', 't'] then .letKeyword
        else if run = ['c', 'o', 'n', 's', 't'] then .constKeyword else .identifier) run rest

theorem symbolKind?_eq_some_iff {character : Char} {kind : TokenKind} :
    symbolKind? character = some kind ↔ (character, kind) ∈ symbolTable := by
  constructor
  · intro symbol
    unfold symbolKind? at symbol
    split at symbol <;> cases symbol <;> decide
  · intro listed
    have agree : (symbolTable.all fun entry => symbolKind? entry.1 = some entry.2) = true := by
      decide
    simpa using List.all_eq_true.mp agree _ listed

theorem isBlank_iff {character : Char} : isBlank character = true ↔ character ∈ blanks := by
  simp [isBlank, blanks, or_assoc]

theorem isDigit_eq (character : Char) : Number.isDigit character = character.isDigit := by
  simp [Number.isDigit, Char.isDigit, Char.le_def]

theorem wordKind_eq (run : List Char) :
    wordKind run = if run = ['l', 'e', 't'] then .letKeyword
      else if run = ['c', 'o', 'n', 's', 't'] then .constKeyword else .identifier := by
  have isLet : String.ofList run = "let" ↔ run = ['l', 'e', 't'] := String.ofList_inj
  have isConst : String.ofList run = "const" ↔ run = ['c', 'o', 'n', 's', 't'] := String.ofList_inj
  simp only [wordKind, TokenKind.keyword?, isLet, isConst]
  split
  · rfl
  · split <;> rfl

/-- What the reader takes for a lexeme is what is said of it character by character. -/
theorem lexeme_iff_munch {kind : TokenKind} {run rest : List Char} :
    Lexeme kind run rest ↔ Munch kind run rest := by
  constructor
  · intro lexeme
    cases lexeme with
    | symbol symbol => exact .symbol (symbolKind?_eq_some_iff.mp symbol)
    | number nonempty longest =>
        exact .number nonempty (by simpa [isDigit_eq] using longest.accepted)
          (by simpa [isDigit_eq] using longest.ends)
    | word nonempty longest =>
        rw [wordKind_eq]
        exact .word nonempty longest.accepted longest.ends
  · intro munch
    cases munch with
    | symbol listed => exact .symbol (symbolKind?_eq_some_iff.mpr listed)
    | number nonempty accepted ends =>
        exact .number nonempty
          ⟨by simpa [isDigit_eq] using accepted, by simpa [isDigit_eq] using ends⟩
    | word nonempty accepted ends =>
        rw [← wordKind_eq]
        exact .word nonempty ⟨accepted, ends⟩

/-! ## Rows of pieces -/

/-- A token with the blanks in front of it. -/
structure Piece where
  gap : List Char
  kind : TokenKind
  run : List Char

def Piece.written (piece : Piece) : List Char := piece.gap ++ piece.run

/-- The text of a row of pieces with blanks at its end. -/
def written (pieces : List Piece) (ending : List Char) : List Char :=
  pieces.flatMap Piece.written ++ ending

/-- Only blanks stand between the tokens, and no token could be longer. -/
def LongestMatch : List Piece → List Char → Prop
  | [], ending => ∀ character ∈ ending, character ∈ blanks
  | piece :: later, ending =>
    (∀ character ∈ piece.gap, character ∈ blanks) ∧
      Munch piece.kind piece.run (written later ending) ∧ LongestMatch later ending

/-- The tokens of a row of pieces that other characters stand in front of. -/
def tokensBehind (before : List Char) : List Piece → List Char → List Token
  | [], ending => [endOfFile (behind (before ++ ending))]
  | piece :: later, ending =>
    ⟨piece.kind, String.ofList piece.run, behind (before ++ piece.gap),
        behind (before ++ piece.written)⟩ ::
      tokensBehind (before ++ piece.written) later ending

theorem written_cons (piece : Piece) (later : List Piece) (ending : List Char) :
    written (piece :: later) ending = piece.gap ++ (piece.run ++ written later ending) := by
  simp [written, Piece.written]

theorem Splits.exists_pieces {place : Position} {characters : List Char} {tokens : List Token}
    (splits : Splits place characters tokens) (before : List Char)
    (standing : place = behind before) :
    ∃ pieces ending, characters = written pieces ending ∧ LongestMatch pieces ending ∧
      tokens = tokensBehind before pieces ending := by
  induction splits generalizing before with
  | @stop place gap blank =>
      subst standing
      refine ⟨[], gap, rfl, fun character among => isBlank_iff.mp (blank character among), ?_⟩
      rw [behind_advance]
      rfl
  | @token place gap run rest kind tokens blank found _ ih =>
      subst standing
      obtain ⟨pieces, ending, rfl, longest, rfl⟩ := ih _ (behind_advance before (gap ++ run))
      refine ⟨⟨gap, kind, run⟩ :: pieces, ending, ?_, ⟨?_, ?_, longest⟩, ?_⟩
      · rw [written_cons]
      · exact fun character among => isBlank_iff.mp (blank character among)
      · exact lexeme_iff_munch.mp found
      · rw [behind_advance, behind_advance]
        rfl

theorem LongestMatch.splits {pieces : List Piece} {ending : List Char}
    (longest : LongestMatch pieces ending) (before : List Char) :
    Splits (behind before) (written pieces ending) (tokensBehind before pieces ending) := by
  induction pieces generalizing before with
  | nil =>
      rw [tokensBehind, ← behind_advance]
      exact .stop fun character among => isBlank_iff.mpr (longest character among)
  | cons piece later ih =>
      obtain ⟨blank, munch, longestLater⟩ := longest
      have rest := ih longestLater (before ++ piece.written)
      rw [written_cons, tokensBehind, ← behind_advance before piece.gap,
        ← behind_advance before piece.written]
      rw [← behind_advance before piece.written] at rest
      exact .token (fun character among => isBlank_iff.mpr (blank character among))
        (lexeme_iff_munch.mpr munch) rest

/-- A text is read as the row of pieces that it is, and not at all if it is none. Nothing of it is
lost but its blanks, every token can be cut out of it again, and its end comes last. -/
theorem scan_eq_ok_iff_longestMatch (source : String) (tokens : List Token) :
    (scan source = .ok tokens ↔ ∃ pieces ending, source.toList = written pieces ending ∧
      LongestMatch pieces ending ∧ tokens = tokensBehind [] pieces ending) ∧
    (scan source = .ok tokens → ∃ proper, tokens = proper ++ [endOfFile (behind source.toList)] ∧
      (∀ token ∈ proper, token.kind ≠ .endOfFile ∧
        token.span.extract? source = some token.text) ∧
      (proper.flatMap fun token => token.text.toList) =
        source.toList.filter fun character => character ∉ blanks) := by
  rw [scan_eq_ok_iff]
  constructor
  · constructor
    · intro splits
      exact splits.exists_pieces [] (start_advance [])
    · rintro ⟨pieces, ending, split, longest, rfl⟩
      rw [split]
      exact longest.splits []
  · intro splits
    refine ⟨tokens.dropLast, splits.eq_concat [] (start_advance []), ?_, ?_⟩
    · intro token among
      have proper := splits.proper_of_mem_dropLast token among
      obtain ⟨front, run, back, covers⟩ :=
        splits.exists_covers [] (start_advance []) token (List.dropLast_subset _ among)
      refine ⟨proper, ?_⟩
      rw [covers.span, covers.text proper]
      exact Span.extract?_behind covers.split
    · rw [splits.flatMap_text]
      refine List.filter_congr fun character _ => ?_
      simp [← isBlank_iff]

end CalcScript.Token
