import CalcScript.Proofs.Lexing.LongestMatch
import CalcScript.Proofs.Lexing.Seam
import CalcScript.Proofs.Outcomes

/-!
# Texts that break off

Runs consist of characters of their class alone and blanks are passed over one by one, so no foreign
character is ever passed: a text breaks off at the first of them, and only there. Of two texts in a
row the first decides if it breaks off. Otherwise the second goes on where the first ends, whether it
breaks off or not.
-/

set_option autoImplicit false

namespace CalcScript.Token

open Position

namespace FirstForeign

variable {characters before after : List Char} {error : ForeignCharacter}

/-- What follows a text does not change where it breaks off. -/
theorem append_right (first : FirstForeign characters before error after) (second : List Char) :
    FirstForeign (characters ++ second) before error (after ++ second) where
  split := by simp [first.split]
  foreign := first.foreign
  first := first.first
  position := first.position

/-- A text behind another without foreign characters breaks off where it does by itself. -/
theorem append_left (first : FirstForeign characters before error after) {source : String}
    (native : ∀ character ∈ source.toList, ¬Foreign character) :
    FirstForeign (source.toList ++ characters) (source.toList ++ before)
      (error.moved (ofEnd source).plus) after where
  split := by simp [first.split, ForeignCharacter.moved]
  foreign := first.foreign
  first := List.forall_mem_append.mpr ⟨native, first.first⟩
  position := by
    have line : 1 ≤ start.line := Nat.le_refl 1
    rw [ForeignCharacter.moved, first.position, ← start_advance, plus_advance line,
      plus_ofEnd_start, ofEnd, ← advance_append, start_advance]

end FirstForeign

/-- A character of none of the classes that a text of the language is made of. -/
def Unclassed (character : Char) : Prop :=
  character ∉ blanks ∧ character ∉ symbols ∧ character.isDigit = false ∧
    Text.isCased character = false

theorem foreign_iff_unclassed {character : Char} : Foreign character ↔ Unclassed character := by
  have symbol : symbolKind? character = none ↔ character ∉ symbols := by
    constructor
    · intro noKind among
      have kinds : (symbols.all fun character => (symbolKind? character).isSome) = true := by decide
      have present := List.all_eq_true.mp kinds character among
      rw [noKind] at present
      cases present
    · intro absent
      cases found : symbolKind? character with
      | none => rfl
      | some kind => exact absurd (mem_symbols found) absent
  constructor
  · intro foreign
    refine ⟨?_, symbol.mp foreign.symbol, isDigit_eq character ▸ foreign.digit, foreign.cased⟩
    rw [← isBlank_iff, foreign.blank]
    decide
  · rintro ⟨blank, symbols, digit, cased⟩
    rw [← isBlank_iff, Bool.not_eq_true] at blank
    exact ⟨blank, symbol.mpr symbols, (isDigit_eq character).trans digit, cased⟩

/-- Scanning fails on the texts with a character of no class, and the error is the first of them with
the place behind the characters in front of it. -/
theorem scan_fails_at_first_unclassed (source : String) :
    ((∃ error, scan source = .error error) ↔ ∃ character ∈ source.toList, Unclassed character) ∧
    ∀ error, scan source = .error error ↔
      ∃ before after, source.toList = before ++ error.character :: after ∧
        (∀ character ∈ before, ¬Unclassed character) ∧ Unclassed error.character ∧
        error.position = behind before := by
  constructor
  · constructor
    · rintro ⟨error, failed⟩
      obtain ⟨before, after, first⟩ := scan_eq_error_iff.mp failed
      refine ⟨error.character, ?_, foreign_iff_unclassed.mp first.foreign⟩
      rw [first.split]
      simp
    · rintro ⟨character, among, unclassed⟩
      cases scanned : scan source with
      | error error => exact ⟨error, rfl⟩
      | ok tokens =>
          have native := (scan_eq_ok_iff.mp scanned).not_foreign character among
          exact absurd (foreign_iff_unclassed.mpr unclassed) native
  · intro error
    rw [scan_eq_error_iff]
    simp only [← foreign_iff_unclassed]
    constructor
    · rintro ⟨before, after, first⟩
      exact ⟨before, after, first.split, first.first, first.foreign, first.position⟩
    · rintro ⟨before, after, split, first, foreign, position⟩
      exact ⟨before, after, split, foreign, first, position⟩

/-- Scanning a text in two parts. A first part that fails decides alone. Otherwise, if no run reaches
over the seam, the tokens of the second part follow those of the first, or its error follows, each
counted on from the end of the first part. -/
theorem scan_append_eq (first second : String) :
    (∀ error, scan first = .error error → scan (first ++ second) = .error error) ∧
    ∀ tokens, scan first = .ok tokens → Seam first.toList second.toList →
      ∃ words, tokens = words ++ [endOfFile (behind first.toList)] ∧
        scan (first ++ second) = match scan second with
          | .ok later => .ok (words ++ later.map (Token.moved (ofEnd first).plus))
          | .error error => .error (error.moved (ofEnd first).plus) := by
  constructor
  · intro error failed
    obtain ⟨before, after, foreign⟩ := scan_eq_error_iff.mp failed
    refine scan_eq_error_iff.mpr ⟨before, after ++ second.toList, ?_⟩
    rw [String.toList_append]
    exact foreign.append_right second.toList
  · intro tokens scanned seam
    have splits := scan_eq_ok_iff.mp scanned
    refine ⟨tokens.dropLast, splits.eq_concat [] (start_advance []), ?_⟩
    cases scannedLater : scan second with
    | ok later => exact scan_append scanned scannedLater seam
    | error error =>
        obtain ⟨before, after, foreign⟩ := scan_eq_error_iff.mp scannedLater
        refine scan_eq_error_iff.mpr ⟨first.toList ++ before, after, ?_⟩
        rw [String.toList_append]
        exact foreign.append_left splits.not_foreign

theorem scan_append_eq_two_lines :
    scan ("x\n #" ++ "é") = .error ⟨'#', ⟨3, 2, 2⟩⟩ ∧
    Seam "let é".toList " =\n#".toList ∧
    scan ("let é" ++ " =\n#") = .error ⟨'#', ⟨9, 2, 1⟩⟩ := by
  have native : ∀ character ∈ ['x', '\n', ' '], ¬Foreign character := by
    simp only [List.mem_cons, List.not_mem_nil, or_false, forall_eq_or_imp, forall_eq]
    decide
  have failed : scan "x\n #" = .error ⟨'#', ⟨3, 2, 2⟩⟩ :=
    scan_eq_error_iff.mpr ⟨['x', '\n', ' '], [], by decide, by decide, native, by decide⟩
  have scanned : scan "let é" = .ok
      [⟨.letKeyword, "let", ⟨0, 1, 1⟩, ⟨3, 1, 4⟩⟩, ⟨.identifier, "é", ⟨4, 1, 5⟩, ⟨6, 1, 6⟩⟩,
        .endOfFile ⟨6, 1, 6⟩] :=
    ok_of_toOption_eq_some (by decide +kernel)
  have seam : Seam "let é".toList " =\n#".toList := by
    intro left last right first
    cases last
    cases first
    decide
  have nativeSecond : ∀ character ∈ [' ', '=', '\n'], ¬Foreign character := by
    simp only [List.mem_cons, List.not_mem_nil, or_false, forall_eq_or_imp, forall_eq]
    decide
  have failedSecond : scan " =\n#" = .error ⟨'#', ⟨3, 2, 1⟩⟩ :=
    scan_eq_error_iff.mpr ⟨[' ', '=', '\n'], [], by decide, by decide, nativeSecond, by decide⟩
  obtain ⟨words, -, joined⟩ := (scan_append_eq "let é" " =\n#").2 _ scanned seam
  rw [failedSecond] at joined
  exact ⟨(scan_append_eq "x\n #" "é").1 _ failed, seam, joined⟩

end CalcScript.Token
