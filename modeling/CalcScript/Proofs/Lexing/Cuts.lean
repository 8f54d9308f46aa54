import CalcScript.Proofs.Grammar.Sources
import CalcScript.Proofs.Layout.Spans
import CalcScript.Proofs.Layout.Unplaced
import CalcScript.Proofs.Lexing.Places

/-!
# Cuts between tokens

A text can be cut behind any of its tokens. Its two parts are then split as they were in the whole,
so the stretch from one token to another can be read by itself. It has the words that it had there,
and the program that its tokens derive.
-/

set_option autoImplicit false

namespace CalcScript.Token

open Position Grammar

namespace Splits

variable {place : Position} {characters : List Char} {tokens : List Token}

/-- The cut behind the last of some tokens, or in front of the text if there are none. -/
theorem exists_cut (splits : Splits place characters tokens) {first rest : List Token}
    (parts : tokens.dropLast = first ++ rest) :
    ∃ front back, characters = front ++ back ∧
      Splits place front (first ++ [endOfFile (place.advance front)]) ∧
      Splits (place.advance front) back (rest ++ [endOfFile (place.advance characters)]) ∧
      ∀ before : Span, before.stop = place →
        (lastSpan before first).stop = place.advance front := by
  induction first generalizing place characters tokens with
  | nil =>
      have whole := splits.eq_concat_end
      rw [parts] at whole
      exact ⟨[], characters, rfl, .stop (List.forall_mem_nil _), whole ▸ splits,
        fun _ stop => stop⟩
  | cons initial first ih =>
      cases splits with
      | stop blank => cases parts
      | @token _ gap run others kind tokens blank found splits =>
          rw [List.dropLast_cons_of_ne_nil splits.ne_nil] at parts
          obtain ⟨rfl, later⟩ := List.cons_eq_cons.mp parts
          obtain ⟨front, back, rfl, before, behind, ends⟩ := ih splits later
          have joined (more : List Char) : (place.advance (gap ++ run)).advance more =
              place.advance (gap ++ (run ++ more)) := by
            rw [← Position.advance_append, List.append_assoc]
          rw [joined] at before behind ends
          rw [joined] at behind
          refine ⟨gap ++ (run ++ front), back, by simp, .token blank found.of_append before,
            behind, fun _ _ => ends _ rfl⟩

/-- The blanks in front of the first token can be left out. -/
theorem exists_gap {first : Token} {rest : List Token}
    (splits : Splits place characters (first :: rest)) (proper : first.kind ≠ .endOfFile) :
    ∃ gap text, characters = gap ++ text ∧ (∀ character ∈ gap, isBlank character = true) ∧
      first.span.start = place.advance gap ∧
      Splits (place.advance gap) text (first :: rest) := by
  cases splits with
  | stop blank => exact absurd rfl proper
  | @token _ gap run others kind _ blank found later =>
      refine ⟨gap, run ++ others, rfl, blank, rfl, ?_⟩
      rw [Position.advance_append] at later ⊢
      exact .token (List.forall_mem_nil _) found later

/-- A text without tokens is blank. -/
theorem blank_of_dropLast (splits : Splits place characters tokens) (empty : tokens.dropLast = []) :
    ∀ character ∈ characters, isBlank character = true := by
  cases splits with
  | stop blank => exact blank
  | token blank found splits =>
      rw [List.dropLast_cons_of_ne_nil splits.ne_nil] at empty
      cases empty

/-- The same characters elsewhere are split into the same words. -/
theorem elsewhere (splits : Splits place characters tokens) (other : Position) :
    ∃ others, Splits other characters others ∧ others.map word = tokens.map word := by
  induction splits generalizing other with
  | stop blank => exact ⟨_, .stop blank, rfl⟩
  | @token place gap run rest kind tokens blank found _ ih =>
      obtain ⟨others, splits, same⟩ := ih (other.advance (gap ++ run))
      exact ⟨_, .token blank found splits, congrArg (_ :: ·) same⟩

end Splits

/-- A text behind other characters that is made of the tokens of a run, without blanks around
them. -/
structure Spells (before text : List Char) (run : List Token) : Prop where
  nonempty : run ≠ []
  splits : Splits (behind before) text (run ++ [endOfFile (behind (before ++ text))])
  starts : ∀ first ∈ run.head?, first.span.start = behind before
  stops : ∀ last : Span, (lastSpan last run).stop = behind (before ++ text)

/-- The stretch of some tokens at the start of a text, from the first of them to the last. -/
theorem Splits.exists_spells {before characters : List Char} {tokens run rest : List Token}
    (splits : Splits (behind before) characters tokens) (parts : tokens.dropLast = run ++ rest)
    (nonempty : run ≠ []) :
    ∃ gap text back, characters = gap ++ (text ++ back) ∧
      (∀ character ∈ gap, isBlank character = true) ∧ Spells (before ++ gap) text run ∧
      Splits (behind (before ++ (gap ++ text))) back
        (rest ++ [endOfFile (behind (before ++ characters))]) := by
  obtain ⟨front, back, rfl, splitsFront, splitsBack, stops⟩ := splits.exists_cut parts
  obtain ⟨first, run, rfl⟩ := List.exists_cons_of_ne_nil nonempty
  have proper : first.kind ≠ .endOfFile :=
    splits.proper_of_mem_dropLast first (by simp [parts])
  obtain ⟨gap, text, rfl, blank, start, splitsText⟩ := splitsFront.exists_gap proper
  rw [behind_advance, behind_advance] at splitsBack
  rw [behind_advance] at stops start
  rw [behind_advance, behind_advance] at splitsText
  have joined : before ++ gap ++ text = before ++ (gap ++ text) := List.append_assoc ..
  refine ⟨gap, text, back, List.append_assoc .., blank, ⟨nonempty, ?_, ?_, ?_⟩, splitsBack⟩
  · rw [joined]
    exact splitsText
  · intro initial among
    cases among
    exact start
  · intro last
    rw [joined]
    exact stops (Span.point (behind before)) rfl

namespace Spells

variable {before text : List Char} {run : List Token}

theorem proper (spells : Spells before text run) : ∀ token ∈ run, token.kind ≠ .endOfFile := by
  intro token among
  apply spells.splits.proper_of_mem_dropLast
  rwa [List.dropLast_concat]

theorem exists_run (spells : Spells before text run) {token : Token} (among : token ∈ run) :
    ∃ front word back, text = front ++ (word ++ back) ∧ word ≠ [] ∧
      token.span = ⟨behind (before ++ front), behind (before ++ (front ++ word))⟩ := by
  obtain ⟨front, word, back, rfl, span, shown⟩ :=
    spells.splits.exists_run token (List.mem_append_left _ among)
  rw [behind_advance, behind_advance] at span
  exact ⟨front, word, back, rfl, (shown (spells.proper token among)).2, span⟩

theorem bounds (spells : Spells before text run) {token : Token} (among : token ∈ run) :
    Text.byteLength before ≤ token.span.start.offset ∧
      token.span.start.offset < token.span.stop.offset ∧
      token.span.stop.offset ≤ Text.byteLength (before ++ text) := by
  obtain ⟨front, word, back, rfl, nonempty, span⟩ := spells.exists_run among
  have positive := Text.byteLength_pos nonempty
  rw [span]
  simp only [behind, Text.byteLength_append]
  omega

/-- The span from the first token of a run to the last covers the text of the run. -/
theorem covering_eq (spells : Spells before text run) :
    covering run = ⟨behind before, behind (before ++ text)⟩ := by
  obtain ⟨first, rest, rfl⟩ := List.exists_cons_of_ne_nil spells.nonempty
  have start := spells.starts first rfl
  have stop : (lastSpan first.span rest).stop = behind (before ++ text) :=
    spells.stops first.span
  obtain ⟨front, word, back, rfl, -, firstSpan⟩ := spells.exists_run List.mem_cons_self
  have starts : ∀ token ∈ first :: rest, ∃ more, token.span.start = behind (before ++ more) := by
    intro token among
    obtain ⟨more, _, _, _, _, span⟩ := spells.exists_run among
    exact ⟨more, congrArg Span.start span⟩
  obtain ⟨here, later⟩ := List.forall_mem_cons.mp starts
  obtain ⟨more, lastStart⟩ :=
    lastSpan_good (fun span => ∃ more, span.start = behind (before ++ more)) here later
  have firstStop : first.span.stop = behind (before ++ (front ++ word)) :=
    congrArg Span.stop firstSpan
  have whole : before ++ (front ++ (word ++ back)) = before ++ (front ++ word) ++ back := by simp
  rw [covering, Span.join, start, stop, lastStart, firstStop, whole,
    earlier_behind_append, later_behind_append]

/-- A run read by itself gives what its tokens derive. -/
theorem exists_ofSource (spells : Spells before text run) {statements : List Statement}
    (derived : DerivesStatements Limited run statements) :
    ∃ alone, Program.ofSource (String.ofList text) = .ok alone ∧
      alone.unplaced = Program.unplaced ⟨statements⟩ := by
  obtain ⟨others, splits, same⟩ := spells.splits.elsewhere Position.start
  have formed : Program.ofTokens (run ++ [endOfFile (behind (before ++ text))]) =
      .ok ⟨statements⟩ := by
    apply spells.splits.ofTokens_eq_ok_iff.mpr
    rwa [List.dropLast_concat]
  obtain ⟨alone, formedAlone, unplaced⟩ := Program.exists_ofTokens_of_words same.symm formed
  have scanned : scan (String.ofList text) = .ok others := by
    apply scan_eq_ok_iff.mpr
    rwa [String.toList_ofList]
  exact ⟨alone, Program.ofSource_eq_ok_iff.mpr ⟨others, scanned, formedAlone⟩, unplaced⟩

end Spells

end CalcScript.Token
