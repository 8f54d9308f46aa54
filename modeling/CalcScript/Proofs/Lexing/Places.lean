import CalcScript.Proofs.Layout.Places
import CalcScript.Proofs.Lexing.Split

/-!
# Where tokens stand

Every token of a text covers a run of it, and between the tokens there are only blanks. A text that
breaks off does so at the first of its foreign characters.
-/

set_option autoImplicit false

namespace CalcScript

namespace Token

open Position

/-- A token that covers a run of a text. -/
structure Covers (token : Token) (characters before run after : List Char) : Prop where
  split : characters = before ++ (run ++ after)
  span : token.span = ⟨behind before, behind (before ++ run)⟩
  text : token.kind ≠ .endOfFile → token.text = String.ofList run

namespace Splits

variable {place : Position} {characters : List Char} {tokens : List Token}

/-- Every token stands over a run of the text, and only the end of the text is empty. -/
theorem exists_run (splits : Splits place characters tokens) :
    ∀ token ∈ tokens, ∃ front run back, characters = front ++ (run ++ back) ∧
      token.span = ⟨place.advance front, place.advance (front ++ run)⟩ ∧
      (token.kind ≠ .endOfFile → token.text = String.ofList run ∧ run ≠ []) := by
  induction splits with
  | @stop place gap blank =>
      intro token among
      cases List.mem_singleton.mp among
      refine ⟨gap, [], [], by simp, ?_, fun proper => absurd rfl proper⟩
      rw [List.append_nil]
      rfl
  | @token place gap run rest kind tokens blank found _ ih =>
      intro token among
      rcases List.mem_cons.mp among with rfl | later
      · exact ⟨gap, run, rest, rfl, rfl, fun _ => ⟨rfl, found.ne_nil⟩⟩
      · obtain ⟨front, word, back, rfl, span, text⟩ := ih token later
        refine ⟨gap ++ run ++ front, word, back, by simp, ?_, text⟩
        rw [span, ← Position.advance_append, ← Position.advance_append, List.append_assoc _ front]

theorem exists_covers (splits : Splits place characters tokens) (before : List Char)
    (standing : place = behind before) :
    ∀ token ∈ tokens, ∃ front run back, token.Covers (before ++ characters) front run back := by
  subst standing
  intro token among
  obtain ⟨front, run, back, rfl, span, text⟩ := splits.exists_run token among
  refine ⟨before ++ front, run, back, by simp, ?_, fun proper => (text proper).1⟩
  rw [span, behind_advance, behind_advance, List.append_assoc]

theorem eq_concat (splits : Splits place characters tokens) (before : List Char)
    (standing : place = behind before) :
    tokens = tokens.dropLast ++ [endOfFile (behind (before ++ characters))] := by
  subst standing
  rw [← behind_advance]
  exact splits.eq_concat_end

theorem proper_of_mem_dropLast (splits : Splits place characters tokens) :
    ∀ token ∈ tokens.dropLast, token.kind ≠ .endOfFile := by
  intro token among
  rw [← splits.takeWhile_eq] at among
  simpa using List.all_eq_true.mp List.all_takeWhile token among

/-- The tokens hold everything of the text but its blanks. -/
theorem flatMap_text (splits : Splits place characters tokens) :
    (tokens.dropLast.flatMap fun token => token.text.toList) =
      characters.filter fun character => !isBlank character := by
  induction splits with
  | stop blank => simpa using blank
  | @token place gap run rest kind tokens blank found splits ih =>
      have blankGap : (gap.filter fun character => !isBlank character) = [] := by
        simpa using blank
      have wholeRun : (run.filter fun character => !isBlank character) = run := by
        simpa using found.not_blank
      rw [List.dropLast_cons_of_ne_nil splits.ne_nil, List.flatMap_cons, ih, List.filter_append,
        List.filter_append, blankGap, wholeRun]
      simp

end Splits

/-! ## Foreign characters -/

theorem Lexeme.not_foreign {kind : TokenKind} {run rest : List Char}
    (lexeme : Lexeme kind run rest) : ∀ character ∈ run, ¬Foreign character := by
  intro character among foreign
  cases lexeme with
  | symbol symbol =>
      cases List.mem_singleton.mp among
      cases foreign.symbol.symm.trans symbol
  | number _ longest => cases foreign.digit.symm.trans (longest.accepted character among)
  | word _ longest => cases foreign.cased.symm.trans (longest.accepted character among)

theorem Splits.not_foreign {place : Position} {characters : List Char} {tokens : List Token}
    (splits : Splits place characters tokens) : ∀ character ∈ characters, ¬Foreign character := by
  have gap_not_foreign {gap : List Char} (blank : ∀ character ∈ gap, isBlank character = true) :
      ∀ character ∈ gap, ¬Foreign character :=
    fun character among foreign => nomatch foreign.blank.symm.trans (blank character among)
  induction splits with
  | stop blank => exact gap_not_foreign blank
  | token blank found _ ih =>
      simp only [List.forall_mem_append]
      exact ⟨gap_not_foreign blank, found.not_foreign, ih⟩

/-- The first foreign character of a text, between the characters on both sides of it. -/
structure FirstForeign (characters before : List Char) (error : ForeignCharacter)
    (after : List Char) : Prop where
  split : characters = before ++ error.character :: after
  foreign : Foreign error.character
  first : ∀ character ∈ before, ¬Foreign character
  position : error.position = behind before

namespace FirstForeign

variable {characters before after : List Char} {error : ForeignCharacter}

theorem before_eq (first : FirstForeign characters before error after) :
    before = characters.takeWhile fun character => ¬Foreign character := by
  rw [first.split, List.takeWhile_append_of_pos (by simpa using first.first),
    List.takeWhile_cons_of_neg (by simpa using first.foreign), List.append_nil]

theorem unique (first : FirstForeign characters before error after) {other later : List Char}
    {wrong : ForeignCharacter} (second : FirstForeign characters other wrong later) :
    error = wrong := by
  obtain rfl : before = other := first.before_eq.trans second.before_eq.symm
  have tail := List.append_cancel_left (first.split.symm.trans second.split)
  have place := first.position.trans second.position.symm
  obtain ⟨character, position⟩ := error
  cases List.head_eq_of_cons_eq tail
  cases place
  rfl

end FirstForeign

theorem scan_eq_error_iff {source : String} {error : ForeignCharacter} :
    scan source = .error error ↔ ∃ before after, FirstForeign source.toList before error after := by
  have found {error : ForeignCharacter} (failed : scan source = .error error) :
      ∃ before after, FirstForeign source.toList before error after := by
    obtain ⟨front, back, words, last, split, yields⟩ := exists_yields start source.toList
    have collected := failed.symm.trans (yields.scanFrom_eq rfl split)
    cases last with
    | ok ending => cases collected
    | error other =>
        cases collected
        obtain ⟨rest, rfl, position, foreign⟩ := yields.exists_foreign
        exact ⟨front, rest, split, foreign, yields.splits.not_foreign,
          position.trans (start_advance front)⟩
  constructor
  · exact found
  · rintro ⟨before, after, first⟩
    cases scanned : scan source with
    | ok tokens =>
        have native := (scan_eq_ok_iff.mp scanned).not_foreign error.character
        rw [first.split] at native
        exact absurd first.foreign (native (by simp))
    | error other =>
        obtain ⟨_, _, second⟩ := found scanned
        rw [first.unique second]

theorem Foreign.ne_lineFeed {character : Char} (foreign : Foreign character) :
    character ≠ '\n' := by
  rintro rfl
  cases foreign.blank

/-- The span of a foreign character covers that character. -/
theorem scan_error_split {source : String} {error : ForeignCharacter}
    (failed : scan source = .error error) :
    ∃ before after, source.toList = before ++ ([error.character] ++ after) ∧
      error.span = ⟨behind before, behind (before ++ [error.character])⟩ ∧
      Foreign error.character := by
  obtain ⟨before, after, first⟩ := scan_eq_error_iff.mp failed
  refine ⟨before, after, first.split, ?_, first.foreign⟩
  rw [behind_concat, Position.after, if_neg first.foreign.ne_lineFeed, ForeignCharacter.span,
    first.position]

theorem scan_error_within {source : String} {error : ForeignCharacter}
    (failed : scan source = .error error) : error.span.Within source := by
  obtain ⟨before, after, split, span, -⟩ := scan_error_split failed
  rw [span]
  exact Span.within_behind split

theorem scan_tokens_within {source : String} {tokens : List Token} (scanned : scan source = .ok tokens)
    {token : Token} (among : token ∈ tokens) : token.span.Within source := by
  have splits := scan_eq_ok_iff.mp scanned
  obtain ⟨front, run, back, covers⟩ :=
    splits.exists_covers [] (start_advance []) token among
  rw [covers.span]
  exact Span.within_behind (by simpa using covers.split)

end Token

end CalcScript
