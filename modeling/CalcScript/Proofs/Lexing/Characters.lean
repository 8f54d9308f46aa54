import CalcScript.Token.Lexer

/-!
# Classes of characters

No character belongs to two of the classes that tokens and blanks are made of, so the first
character of a token tells which kind of run it starts. A run is the longest if the rest of the text
does not carry it on.
-/

set_option autoImplicit false

namespace CalcScript.Token

/-- The characters that are tokens by themselves, as a list. -/
def symbols : List Char := ['(', ')', '+', '-', '*', '/', '%', '=', ';']

/-- The blanks as a list. -/
def blanks : List Char := [' ', '\t', '\n', '\r']

theorem mem_symbols {character : Char} {kind : TokenKind}
    (symbol : symbolKind? character = some kind) : character ∈ symbols := by
  unfold symbolKind? at symbol
  split at symbol <;> cases symbol <;> decide

theorem mem_blanks {character : Char} (blank : isBlank character = true) :
    character ∈ blanks := by
  simpa [isBlank, blanks, or_assoc] using blank

theorem toNat_of_isDigit {character : Char} (digit : Number.isDigit character = true) :
    character.toNat ≤ 57 := by
  rw [Number.isDigit, Bool.and_eq_true] at digit
  exact of_decide_eq_true digit.2

theorem le_toNat_of_isCased {character : Char} (cased : Text.isCased character = true) :
    65 ≤ character.toNat := by
  obtain ⟨range, among, least, -⟩ := Text.inRanges_eq_true_iff.mp cased
  have above : ∀ range ∈ Text.casedRanges, 65 ≤ range.1 := by decide +kernel
  exact Nat.le_trans (above range among) least

theorem isCased_of_isDigit {character : Char} (digit : Number.isDigit character = true) :
    Text.isCased character = false := by
  cases cased : Text.isCased character with
  | false => rfl
  | true =>
      have least := le_toNat_of_isCased cased
      have most := toNat_of_isDigit digit
      omega

/-- A symbol belongs to no other class. -/
theorem classes_of_symbol {character : Char} {kind : TokenKind}
    (symbol : symbolKind? character = some kind) :
    isBlank character = false ∧ Number.isDigit character = false ∧
      Text.isCased character = false := by
  have apart : (symbols.all fun character =>
      !isBlank character && !Number.isDigit character && !Text.isCased character) = true := by
    decide +kernel
  simpa [and_assoc] using List.all_eq_true.mp apart character (mem_symbols symbol)

/-- A blank belongs to no other class. -/
theorem classes_of_blank {character : Char} (blank : isBlank character = true) :
    symbolKind? character = none ∧ Number.isDigit character = false ∧
      Text.isCased character = false := by
  have apart : (blanks.all fun character => (symbolKind? character).isNone &&
      !Number.isDigit character && !Text.isCased character) = true := by
    decide +kernel
  simpa [and_assoc] using List.all_eq_true.mp apart character (mem_blanks blank)

theorem symbolKind?_of_isDigit {character : Char} (digit : Number.isDigit character = true) :
    symbolKind? character = none := by
  cases symbol : symbolKind? character with
  | none => rfl
  | some kind => cases digit.symm.trans (classes_of_symbol symbol).2.1

theorem symbolKind?_of_isCased {character : Char} (cased : Text.isCased character = true) :
    symbolKind? character = none := by
  cases symbol : symbolKind? character with
  | none => rfl
  | some kind => cases cased.symm.trans (classes_of_symbol symbol).2.2

/-! ## Longest runs -/

/-- A run of accepted characters that the rest of the text does not carry on. -/
structure Longest (accepts : Char → Bool) (run rest : List Char) : Prop where
  accepted : ∀ character ∈ run, accepts character = true
  ends : ∀ character ∈ rest.head?, accepts character = false

section Longest

variable {accepts : Char → Bool} {run rest : List Char}

theorem Longest.takeWhile_eq (longest : Longest accepts run rest) :
    (run ++ rest).takeWhile accepts = run := by
  rw [List.takeWhile_append_of_pos longest.accepted]
  cases rest with
  | nil => simp
  | cons character later =>
      have refused := longest.ends character rfl
      rw [List.takeWhile_cons_of_neg (by simp [refused]), List.append_nil]

theorem Longest.dropWhile_eq (longest : Longest accepts run rest) :
    (run ++ rest).dropWhile accepts = rest := by
  rw [List.dropWhile_append_of_pos longest.accepted]
  cases rest with
  | nil => rfl
  | cons character later =>
      have refused := longest.ends character rfl
      rw [List.dropWhile_cons_of_neg (by simp [refused])]

theorem longest_takeWhile (accepts : Char → Bool) (characters : List Char) :
    Longest accepts (characters.takeWhile accepts) (characters.dropWhile accepts) where
  accepted := List.all_eq_true.mp List.all_takeWhile
  ends := by
    intro character first
    have refused := List.head?_dropWhile_not accepts characters
    rw [Option.mem_def.mp first] at refused
    simpa using refused

/-- A reader that passes what it accepts passes a longest run. -/
theorem Longest.takeWhile_reader (longest : Longest accepts run rest) {reader : Reader}
    (ahead : reader.ahead = run ++ rest) : reader.takeWhile accepts = reader.pass run rest := by
  rw [Reader.takeWhile, ahead, longest.takeWhile_eq, longest.dropWhile_eq]

end Longest

end CalcScript.Token
