import CalcScript.Proofs.Lexing.Characters
import CalcScript.Token.Pull

/-!
# Splitting a text

What it means for a text to be split into tokens, said without a reader. Blanks are left out, each
token stands where it was found, and a number or a word is followed by nothing that would make it
longer. A text that cannot be split breaks off at a foreign character. Every text is one or the
other, and the reader finds out which.
-/

set_option autoImplicit false

namespace CalcScript.Token

/-- A run of characters that is a token of a kind in front of the rest of a text. -/
inductive Lexeme : TokenKind → List Char → List Char → Prop where
  | symbol {character : Char} {kind : TokenKind} {rest : List Char} :
      symbolKind? character = some kind → Lexeme kind [character] rest
  | number {run rest : List Char} :
      run ≠ [] → Longest Number.isDigit run rest → Lexeme .number run rest
  | word {run rest : List Char} :
      run ≠ [] → Longest Text.isCased run rest → Lexeme (wordKind run) run rest

/-- A character that no token begins with and that is no blank. -/
structure Foreign (character : Char) : Prop where
  blank : isBlank character = false
  symbol : symbolKind? character = none
  digit : Number.isDigit character = false
  cased : Text.isCased character = false

instance (character : Char) : Decidable (Foreign character) :=
  decidable_of_iff (isBlank character = false ∧ symbolKind? character = none ∧
      Number.isDigit character = false ∧ Text.isCased character = false)
    ⟨fun ⟨blank, symbol, digit, cased⟩ => ⟨blank, symbol, digit, cased⟩,
      fun ⟨blank, symbol, digit, cased⟩ => ⟨blank, symbol, digit, cased⟩⟩

/-- The tokens that a text is split into when it starts at a place. -/
inductive Splits : Position → List Char → List Token → Prop where
  | stop {place : Position} {gap : List Char} :
      (∀ character ∈ gap, isBlank character = true) →
      Splits place gap [endOfFile (place.advance gap)]
  | token {place : Position} {gap run rest : List Char} {kind : TokenKind}
      {tokens : List Token} :
      (∀ character ∈ gap, isBlank character = true) → Lexeme kind run rest →
      Splits (place.advance (gap ++ run)) rest tokens →
      Splits place (gap ++ (run ++ rest))
        (⟨kind, String.ofList run, place.advance gap, place.advance (gap ++ run)⟩ :: tokens)

/-- Reading a text that starts at a place, as far as it goes: the characters passed and those left,
the tokens, and what ends them. That is the end of the text, or else a foreign character, which stays
in front. -/
inductive Yields : Position → List Char → List Char → List Token → Item → Prop where
  | stop {place : Position} {gap : List Char} :
      (∀ character ∈ gap, isBlank character = true) →
      Yields place gap [] [] (.ok (endOfFile (place.advance gap)))
  | foreign {place : Position} {gap rest : List Char} {character : Char} :
      (∀ character ∈ gap, isBlank character = true) → Foreign character →
      Yields place gap (character :: rest) [] (.error ⟨character, place.advance gap⟩)
  | token {place : Position} {gap run front back : List Char} {kind : TokenKind}
      {words : List Token} {last : Item} :
      (∀ character ∈ gap, isBlank character = true) → Lexeme kind run (front ++ back) →
      Yields (place.advance (gap ++ run)) front back words last →
      Yields place (gap ++ (run ++ front)) back
        (⟨kind, String.ofList run, place.advance gap, place.advance (gap ++ run)⟩ :: words) last

theorem Longest.of_append {accepts : Char → Bool} {run rest more : List Char}
    (longest : Longest accepts run (rest ++ more)) : Longest accepts run rest where
  accepted := longest.accepted
  ends := by
    intro character first
    cases rest with
    | nil => cases first
    | cons initial later => exact longest.ends character first

/-- A token in front of a text is also one in front of the first part of it. -/
theorem Lexeme.of_append {kind : TokenKind} {run rest more : List Char}
    (lexeme : Lexeme kind run (rest ++ more)) : Lexeme kind run rest := by
  cases lexeme with
  | symbol symbol => exact .symbol symbol
  | number nonempty longest => exact .number nonempty longest.of_append
  | word nonempty longest => exact .word nonempty longest.of_append

namespace Lexeme

variable {kind : TokenKind} {run rest : List Char}

theorem ne_nil (lexeme : Lexeme kind run rest) : run ≠ [] := by
  cases lexeme with
  | symbol => exact List.cons_ne_nil _ _
  | number nonempty => exact nonempty
  | word nonempty => exact nonempty

theorem kind_ne (lexeme : Lexeme kind run rest) : kind ≠ .endOfFile := by
  cases lexeme with
  | symbol symbol => exact symbolKind?_ne_endOfFile symbol
  | number => decide
  | word => exact wordKind_ne_endOfFile run

theorem not_blank (lexeme : Lexeme kind run rest) :
    ∀ character ∈ run, isBlank character = false := by
  intro character among
  cases blank : isBlank character with
  | false => rfl
  | true =>
      obtain ⟨noSymbol, noDigit, notCased⟩ := classes_of_blank blank
      cases lexeme with
      | symbol symbol =>
          cases List.mem_singleton.mp among
          cases noSymbol.symm.trans symbol
      | number _ longest => cases noDigit.symm.trans (longest.accepted character among)
      | word _ longest => cases notCased.symm.trans (longest.accepted character among)

theorem longest_gap (lexeme : Lexeme kind run rest) {gap : List Char}
    (blank : ∀ character ∈ gap, isBlank character = true) :
    Longest isBlank gap (run ++ rest) where
  accepted := blank
  ends := by
    intro character first
    obtain ⟨initial, later, rfl⟩ := List.exists_cons_of_ne_nil lexeme.ne_nil
    cases first
    exact lexeme.not_blank character List.mem_cons_self

end Lexeme

namespace Splits

variable {place : Position} {characters : List Char} {tokens : List Token}

theorem ne_nil (splits : Splits place characters tokens) : tokens ≠ [] := by
  cases splits <;> exact List.cons_ne_nil _ _

/-- Only the last token is the end, and it stands behind the whole text. -/
theorem eq_concat_end (splits : Splits place characters tokens) :
    tokens = tokens.dropLast ++ [endOfFile (place.advance characters)] := by
  induction splits with
  | stop blank => rfl
  | token _ _ splits ih =>
      rw [← Position.advance_append, List.append_assoc] at ih
      rw [List.dropLast_cons_of_ne_nil splits.ne_nil, List.cons_append, ← ih]

theorem takeWhile_eq (splits : Splits place characters tokens) :
    tokens.takeWhile (fun token => token.kind ≠ .endOfFile) = tokens.dropLast := by
  induction splits with
  | stop => rfl
  | token _ found splits ih =>
      rw [List.dropLast_cons_of_ne_nil splits.ne_nil,
        List.takeWhile_cons_of_pos (by simpa using found.kind_ne), ih]

end Splits

/-! ## What is ahead -/

theorem exists_lexeme_of_not_foreign {character : Char} (blank : isBlank character = false)
    (known : ¬Foreign character) (later : List Char) :
    ∃ kind run rest, character :: later = run ++ rest ∧ Lexeme kind run rest := by
  have joined (accepts : Char → Bool) : character :: later =
      (character :: later).takeWhile accepts ++ (character :: later).dropWhile accepts :=
    List.takeWhile_append_dropWhile.symm
  have nonempty {accepts : Char → Bool} (accepted : accepts character = true) :
      (character :: later).takeWhile accepts ≠ [] := by
    simp [accepted]
  cases symbol : symbolKind? character with
  | some kind => exact ⟨kind, [character], later, rfl, .symbol symbol⟩
  | none =>
      cases digit : Number.isDigit character with
      | true => exact ⟨_, _, _, joined _, .number (nonempty digit) (longest_takeWhile _ _)⟩
      | false =>
          cases cased : Text.isCased character with
          | true => exact ⟨_, _, _, joined _, .word (nonempty cased) (longest_takeWhile _ _)⟩
          | false => exact absurd ⟨blank, symbol, digit, cased⟩ known

/-- Behind blanks a text ends, or it goes on with a token or with a foreign character. -/
theorem exists_gap (characters : List Char) :
    ∃ gap text, characters = gap ++ text ∧ (∀ character ∈ gap, isBlank character = true) ∧
      (text = [] ∨ (∃ character rest, text = character :: rest ∧ Foreign character) ∨
        ∃ kind run rest, text = run ++ rest ∧ Lexeme kind run rest) := by
  have longest := longest_takeWhile isBlank characters
  refine ⟨_, _, List.takeWhile_append_dropWhile.symm, longest.accepted, ?_⟩
  cases ahead : characters.dropWhile isBlank with
  | nil => exact .inl rfl
  | cons character rest =>
      have blank := longest.ends character (by simp [ahead])
      by_cases foreign : Foreign character
      · exact .inr (.inl ⟨character, rest, rfl, foreign⟩)
      · exact .inr (.inr (exists_lexeme_of_not_foreign blank foreign rest))

/-- Every text is read up to its end or up to a foreign character. -/
theorem exists_yields (place : Position) (characters : List Char) :
    ∃ front back words last, characters = front ++ back ∧ Yields place front back words last := by
  induction measure : characters.length using Nat.strongRecOn generalizing place characters with
  | ind length ih =>
      obtain ⟨gap, text, rfl, blank, rfl | ⟨character, rest, rfl, foreign⟩ |
        ⟨kind, run, rest, rfl, found⟩⟩ := exists_gap characters
      · exact ⟨gap, [], [], _, rfl, .stop blank⟩
      · exact ⟨gap, character :: rest, [], _, rfl, .foreign blank foreign⟩
      · have shorter : rest.length < length := by
          have positive := List.length_pos_iff.mpr found.ne_nil
          simp only [List.length_append] at measure
          omega
        obtain ⟨front, back, words, last, rfl, yields⟩ :=
          ih _ shorter (place.advance (gap ++ run)) rest rfl
        exact ⟨_, back, _, last, by simp, .token blank found yields⟩

/-! ## The reader -/

theorem pass_pass (reader : Reader) (first middle second rest : List Char) :
    (reader.pass first middle).pass second rest = reader.pass (first ++ second) rest := by
  simp [Reader.pass, Position.advance_append]

theorem longest_end {gap : List Char} (blank : ∀ character ∈ gap, isBlank character = true) :
    Longest isBlank gap [] :=
  ⟨blank, fun _ first => by cases first⟩

theorem Foreign.longest_gap {character : Char} (foreign : Foreign character) {gap : List Char}
    (blank : ∀ character ∈ gap, isBlank character = true) (rest : List Char) :
    Longest isBlank gap (character :: rest) where
  accepted := blank
  ends := by
    intro initial first
    cases first
    exact foreign.blank

theorem Lexeme.lexemeAt_eq {kind : TokenKind} {run rest : List Char} (found : Lexeme kind run rest)
    {reader : Reader} (ahead : reader.ahead = run ++ rest) :
    lexemeAt reader =
      .ok (lexeme kind run reader (reader.pass run rest), reader.pass run rest) := by
  cases found with
  | symbol symbol =>
      rw [lexemeAt, ahead]
      simp only [List.singleton_append, symbol]
  | number nonempty longest =>
      obtain ⟨first, later, rfl⟩ := List.exists_cons_of_ne_nil nonempty
      have digit := longest.accepted first List.mem_cons_self
      rw [lexemeAt, longest.takeWhile_reader ahead, ahead, longest.takeWhile_eq]
      simp only [List.cons_append, symbolKind?_of_isDigit digit, digit, if_true]
  | word nonempty longest =>
      obtain ⟨first, later, rfl⟩ := List.exists_cons_of_ne_nil nonempty
      have cased := longest.accepted first List.mem_cons_self
      have noDigit : Number.isDigit first ≠ true := by
        intro digit
        cases cased.symm.trans (isCased_of_isDigit digit)
      rw [lexemeAt, longest.takeWhile_reader ahead, ahead, longest.takeWhile_eq]
      simp only [List.cons_append, symbolKind?_of_isCased cased, if_neg noDigit, cased, if_true]

section Next

variable {reader : Reader} {gap run rest : List Char}
  (blank : ∀ character ∈ gap, isBlank character = true)

include blank

theorem next_at_end (ahead : reader.ahead = gap) :
    next reader = .ok (endOfFile (reader.position.advance gap), reader.pass gap []) := by
  rw [next, (longest_end blank).takeWhile_reader (ahead.trans (List.append_nil gap).symm)]
  rfl

theorem Foreign.next_eq {character : Char} (foreign : Foreign character)
    (ahead : reader.ahead = gap ++ character :: rest) :
    next reader = .error ⟨character, reader.position.advance gap⟩ := by
  rw [next, (foreign.longest_gap blank rest).takeWhile_reader ahead, lexemeAt]
  simp [Reader.pass, foreign.symbol, foreign.digit, foreign.cased]

theorem Lexeme.next_eq {kind : TokenKind} (found : Lexeme kind run rest)
    (ahead : reader.ahead = gap ++ (run ++ rest)) :
    next reader = .ok (⟨kind, String.ofList run, reader.position.advance gap,
      reader.position.advance (gap ++ run)⟩, reader.pass (gap ++ run) rest) := by
  rw [next, (found.longest_gap blank).takeWhile_reader ahead, found.lexemeAt_eq rfl, pass_pass]
  rfl

end Next

namespace Yields

variable {place : Position} {front back : List Char} {words : List Token} {last : Item}

/-- Scanning collects what there is to read. -/
theorem scanFrom_eq (yields : Yields place front back words last) {reader : Reader}
    (standing : reader.position = place) (ahead : reader.ahead = front ++ back) :
    scanFrom reader = last.map fun ending => words ++ [ending] := by
  induction yields generalizing reader with
  | stop blank =>
      subst standing
      rw [List.append_nil] at ahead
      exact scanFrom_of_end (next_at_end blank ahead) rfl
  | foreign blank foreign =>
      subst standing
      exact scanFrom_of_error (foreign.next_eq blank ahead)
  | @token place gap run front back kind words last blank found _ ih =>
      subst standing
      simp only [List.append_assoc] at ahead
      rw [scanFrom_of_token (found.next_eq blank ahead) found.kind_ne, ih rfl rfl]
      cases last <;> rfl

/-- What has been passed is split into the tokens read. -/
theorem splits (yields : Yields place front back words last) :
    Splits place front (words ++ [endOfFile (place.advance front)]) := by
  induction yields with
  | stop blank | foreign blank => exact .stop blank
  | token blank found _ ih =>
      rw [← Position.advance_append, List.append_assoc] at ih
      exact .token blank found.of_append ih

theorem ok_iff {ending : Token} (yields : Yields place front back words (.ok ending)) :
    back = [] ∧ ending = endOfFile (place.advance front) := by
  generalize whole : (Except.ok ending : Item) = last at yields
  induction yields with
  | stop =>
      cases whole
      exact ⟨rfl, rfl⟩
  | foreign => cases whole
  | token _ _ _ ih => simpa [Position.advance_append] using ih whole

theorem exists_foreign {error : ForeignCharacter}
    (yields : Yields place front back words (.error error)) :
    ∃ rest, back = error.character :: rest ∧ error.position = place.advance front ∧
      Foreign error.character := by
  generalize broken : (Except.error error : Item) = last at yields
  induction yields with
  | stop => cases broken
  | foreign _ foreign =>
      cases broken
      exact ⟨_, rfl, rfl, foreign⟩
  | token _ _ _ ih => simpa [Position.advance_append] using ih broken

end Yields

theorem Splits.yields {place : Position} {characters : List Char} {tokens : List Token}
    (splits : Splits place characters tokens) :
    Yields place characters [] tokens.dropLast (.ok (endOfFile (place.advance characters))) := by
  induction splits with
  | stop blank => exact .stop blank
  | token blank found splits ih =>
      rw [← Position.advance_append, List.append_assoc] at ih
      rw [List.dropLast_cons_of_ne_nil splits.ne_nil]
      exact .token blank (by simpa using found) ih

/-- The reader gives the tokens that the text ahead of it is split into, and fails if there is no
such split. -/
theorem scanFrom_eq_ok_iff {reader : Reader} {tokens : List Token} :
    scanFrom reader = .ok tokens ↔ Splits reader.position reader.ahead tokens := by
  constructor
  · intro scanned
    obtain ⟨front, back, words, last, ahead, yields⟩ := exists_yields reader.position reader.ahead
    have collected := scanned.symm.trans (yields.scanFrom_eq rfl ahead)
    cases last with
    | error error => cases collected
    | ok ending =>
        cases collected
        obtain ⟨rfl, rfl⟩ := yields.ok_iff
        rw [ahead, List.append_nil]
        exact yields.splits
  · intro splits
    rw [splits.yields.scanFrom_eq rfl (List.append_nil _).symm]
    exact congrArg Except.ok splits.eq_concat_end.symm

theorem scan_eq_ok_iff {source : String} {tokens : List Token} :
    scan source = .ok tokens ↔ Splits Position.start source.toList tokens :=
  scanFrom_eq_ok_iff

end CalcScript.Token
