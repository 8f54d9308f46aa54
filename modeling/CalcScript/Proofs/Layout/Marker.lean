import Mathlib.Data.List.Basic
import CalcScript.Proofs.Layout.Lines
import CalcScript.Proofs.Lexing.Places

/-!
# What a marker stands under

A span that neither starts nor stops between a word and the blanks around it starts in the middle of
a line or at its end, never between the two characters of a line ending. The part of the span on
that line is then the first line of what the span covers, and the marker is as wide as that part.
-/

set_option autoImplicit false

namespace CalcScript

/-- Two ways to cut a text are the same if they cut at the same byte. -/
theorem Text.append_inj_of_byteLength {before after other rest : List Char}
    (same : before ++ after = other ++ rest) (bytes : byteLength before = byteLength other) :
    before = other ∧ after = rest := by
  suffices length : before.length = other.length from List.append_inj same length
  have inBoth : before <+: other ++ rest := ⟨after, same⟩
  rcases List.prefix_or_prefix_of_prefix inBoth (List.prefix_append other rest) with
    ⟨more, rfl⟩ | ⟨more, rfl⟩
  all_goals
    rw [byteLength_append] at bytes
    rcases eq_or_ne more [] with rfl | nonempty
    · simp
    · have positive := byteLength_pos nonempty
      omega

namespace Position

/-- A place at the start of a word or at the end of the text. -/
def OpensWord (place : Position) (source : String) : Prop :=
  ∃ before after, source.toList = before ++ after ∧ place = behind before ∧
    ∀ character ∈ after.head?, Token.isBlank character = false

/-- A place at the end of a word or at the end of the text. -/
def ClosesWord (place : Position) (source : String) : Prop :=
  ∃ before after, source.toList = before ++ after ∧ place = behind before ∧
    (after = [] ∨ ∀ character ∈ before.getLast?, Token.isBlank character = false)

end Position

namespace Span

open Position

/-- A span of whole words. -/
structure Tight (span : Span) (source : String) : Prop where
  within : span.Within source
  start : span.start.OpensWord source
  stop : span.stop.ClosesWord source

variable {source : String}

theorem Tight.join {left right : Span} (isLeft : left.Tight source) (isRight : right.Tight source) :
    (left.join right).Tight source where
  within := isLeft.within.join isRight.within
  start := earlier_good (·.OpensWord source) isLeft.start isRight.start
  stop := later_good (·.ClosesWord source) isLeft.stop isRight.stop

theorem tight_behind {before run after : List Char} (split : source.toList = before ++ (run ++ after))
    (opens : ∀ character ∈ (run ++ after).head?, Token.isBlank character = false)
    (closes : after = [] ∨ ∀ character ∈ (before ++ run).getLast?, Token.isBlank character = false) :
    Tight ⟨behind before, behind (before ++ run)⟩ source where
  within := within_behind split
  start := ⟨before, run ++ after, split, rfl, opens⟩
  stop := ⟨before ++ run, after, by rw [split, List.append_assoc], rfl, closes⟩

/-- The characters around a span of whole words and in it. -/
theorem Tight.exists_split {span : Span} (tight : span.Tight source) :
    ∃ before run after, source.toList = before ++ (run ++ after) ∧
      span = ⟨behind before, behind (before ++ run)⟩ ∧
      (∀ character ∈ (run ++ after).head?, Token.isBlank character = false) ∧
      (after = [] ∨ ∀ character ∈ (before ++ run).getLast?, Token.isBlank character = false) := by
  obtain ⟨start, stop⟩ := span
  obtain ⟨⟨inStart, inStop, ordered⟩, ⟨front, back, splitStart, opensAt, opens⟩,
    ⟨initial, rest, splitStop, closesAt, closes⟩⟩ := tight
  obtain ⟨before, run, after, split, rfl, rfl⟩ :=
    inStart.exists_between inStop (offset_le_of_isLE ordered)
  obtain ⟨rfl, rfl⟩ := Text.append_inj_of_byteLength (split.symm.trans splitStart)
    (congrArg Position.offset opensAt)
  rw [← List.append_assoc] at split
  obtain ⟨rfl, rfl⟩ := Text.append_inj_of_byteLength (split.symm.trans splitStop)
    (congrArg Position.offset closesAt)
  exact ⟨before, run, after, splitStart, rfl, opens, closes⟩

end Span

/-! ## Words of a text -/

namespace Token

open Position

theorem Splits.tight {place : Position} {characters : List Char} {tokens : List Token}
    (splits : Splits place characters tokens) {source : String} {before : List Char}
    (standing : place = behind before) (split : source.toList = before ++ characters) :
    ∀ token ∈ tokens, token.span.Tight source := by
  induction splits generalizing before with
  | @stop place gap blank =>
      intro token among
      cases List.mem_singleton.mp among
      subst standing
      rw [behind_advance]
      have ended : source.toList = (before ++ gap) ++ ([] ++ []) := by simpa using split
      have tight := Span.tight_behind ended (fun character among => nomatch among) (.inl rfl)
      simpa [Token.endOfFile, Span.point] using tight
  | @token place gap run rest kind tokens blank found _ ih =>
      subst standing
      have joined : source.toList = (before ++ gap) ++ (run ++ rest) := by simpa using split
      have passed : (behind before).advance (gap ++ run) = behind (before ++ gap ++ run) := by
        rw [behind_advance, List.append_assoc]
      refine List.forall_mem_cons.mpr ⟨?_, ih passed (by simp [joined])⟩
      · rw [behind_advance, behind_advance, ← List.append_assoc]
        refine Span.tight_behind joined ?_ (.inr ?_)
        · obtain ⟨initial, later, rfl⟩ := List.exists_cons_of_ne_nil found.ne_nil
          intro character first
          cases first
          exact found.not_blank initial List.mem_cons_self
        · intro character last
          rw [List.getLast?_append_of_ne_nil _ found.ne_nil] at last
          exact found.not_blank character (List.mem_of_getLast? last)

theorem scan_error_tight {source : String} {error : ForeignCharacter}
    (failed : scan source = .error error) : error.span.Tight source := by
  obtain ⟨before, after, shown, span, foreign⟩ := scan_error_split failed
  rw [span]
  refine Span.tight_behind shown ?_ (.inr ?_)
  · intro character first
    cases first
    exact foreign.blank
  · intro character last
    simp at last
    subst last
    exact foreign.blank

end Token

/-! ## The part of a span on its first line -/

/-- A line of a text by its number, counted from one. Behind a final line feed there is one more
line, which is empty. -/
def Text.IsLine (characters : List Char) (number : Nat) (line : List Char) : Prop :=
  ∃ earlier rest, characters = earlier ++ (line ++ rest) ∧ WholeLines earlier ∧
    number = 1 + earlier.count '\n' ∧ '\n' ∉ line ∧ EndsLine line rest

theorem Text.IsLine.line_eq {source : String} {number : Nat} {line : List Char}
    (isLine : IsLine source.toList number line) : Text.line source number = line := by
  obtain ⟨earlier, rest, split, whole, rfl, unbroken, ends⟩ := isLine
  rw [whole.line_eq split, ends.headD_lines unbroken]

/-- A carriage return that ends a line is at the end of the last part of the line. -/
theorem Text.withoutCarriageReturn_append_of_ne_nil {last : List Char} (nonempty : last ≠ [])
    (front : List Char) :
    withoutCarriageReturn (front ++ last) = front ++ withoutCarriageReturn last := by
  unfold withoutCarriageReturn
  rw [List.getLast?_append_of_ne_nil _ nonempty]
  split
  · exact List.dropLast_append_of_ne_nil nonempty
  · rfl

/-- How a span stands on the line where it starts: after a part of the line, over a part that is the
first line of what the span covers, and before what is beyond it. -/
structure Span.StandsOn (span : Span) (source : String) (front covered beyond : List Char) :
    Prop where
  line : Text.IsLine source.toList span.start.line (front ++ covered ++ beyond)
  column : span.start.column = 1 + front.length
  cut : ∃ cut, span.extract? source = some cut ∧ (Text.lines cut.toList).headD [] = covered

/-- A run of whole words that stays in a line ends before the line does. -/
theorem Text.EndsLine.prefix_of_words {line back rest run after : List Char}
    (ends : EndsLine line rest) (joined : run ++ after = back ++ rest) (inLine : '\n' ∉ run)
    (closes : after = [] ∨ ∀ character ∈ run.getLast?, Token.isBlank character = false) :
    run <+: back := by
  have runFirst : run <+: back ++ rest := ⟨after, joined⟩
  rcases List.prefix_or_prefix_of_prefix runFirst (List.prefix_append back rest) with
    within | ⟨extra, rfl⟩
  · exact within
  rw [List.append_assoc] at joined
  have atEnd := List.append_cancel_left joined
  rcases extra with _ | ⟨initial, _ | ⟨second, more⟩⟩
  case nil => simp
  case cons.nil =>
    -- what is left of the line ending could only be its carriage return, which is a blank
    cases ends with
    | feed => cases atEnd; simp at inLine
    | returnFeed =>
        cases atEnd
        rcases closes with empty | blank
        · cases empty
        · cases blank '\r' (by simp)
    | endOfText => cases atEnd
  case cons.cons =>
    cases ends with
    | feed => cases atEnd; simp at inLine
    | returnFeed => cases atEnd; simp at inLine
    | endOfText => cases atEnd

/-- A run of characters that goes on over the end of a line covers the rest of the line. -/
theorem Text.EndsLine.withoutCarriageReturn_eq {front back rest first later : List Char}
    (ends : EndsLine (front ++ back) rest) (unbroken : '\n' ∉ front ++ back)
    (joined : first ++ '\n' :: later = back ++ rest) (nonempty : first ≠ [])
    (unbrokenFirst : '\n' ∉ first) : withoutCarriageReturn first = back := by
  have shown := ends.headD_lines unbroken
  have again : front ++ back ++ rest = (front ++ first) ++ '\n' :: later := by
    rw [List.append_assoc, ← joined, List.append_assoc]
  have unbrokenBoth : '\n' ∉ front ++ first := by simp_all
  rw [again, lines_feed unbrokenBoth, List.headD_cons,
    withoutCarriageReturn_append_of_ne_nil nonempty] at shown
  exact List.append_cancel_left shown

namespace Span

open Position

variable {source : String} {span : Span}

theorem markedColumns_inside {earlier front run : List Char} (whole : Text.WholeLines earlier)
    (unbroken : '\n' ∉ front) (inLine : '\n' ∉ run) (line : List Char) :
    markedColumns ⟨behind (earlier ++ front), behind (earlier ++ front ++ run)⟩ line =
      max 1 run.length := by
  have unbrokenBoth : '\n' ∉ front ++ run := by simp [unbroken, inLine]
  rw [markedColumns, List.append_assoc, whole.behind_eq unbroken, whole.behind_eq unbrokenBoth,
    if_pos rfl, List.length_append]
  dsimp only
  omega

theorem markedColumns_across {earlier front run : List Char} (whole : Text.WholeLines earlier)
    (unbroken : '\n' ∉ front) (across : '\n' ∈ run) (back : List Char) :
    markedColumns ⟨behind (earlier ++ front), behind (earlier ++ front ++ run)⟩ (front ++ back) =
      max 1 back.length := by
  have more := List.count_pos_iff.mpr across
  have apart : (behind (earlier ++ front ++ run)).line ≠ (behind (earlier ++ front)).line := by
    simp only [behind, List.count_append]
    omega
  rw [markedColumns, if_neg apart, whole.behind_eq unbroken, List.length_append]
  dsimp only
  omega

/-- A span of whole words stands on its line with as many columns as are marked. -/
theorem Tight.exists_standsOn (tight : span.Tight source) :
    ∃ front covered beyond, span.StandsOn source front covered beyond ∧
      span.markedColumns (front ++ covered ++ beyond) = max 1 covered.length := by
  obtain ⟨before, run, after, split, rfl, opens, closes⟩ := tight.exists_split
  obtain ⟨earlier, front, rfl, whole, unbroken⟩ := Text.exists_wholeLines before
  have inside : (run ++ after).head? ≠ some '\n' := by
    intro feed
    cases opens '\n' feed
  obtain ⟨back, rest, joined, unbrokenBack, ends⟩ := Text.exists_endsLine front inside
  have unbrokenLine : '\n' ∉ front ++ back := by simp [unbroken, unbrokenBack]
  have isLine : Text.IsLine source.toList (behind (earlier ++ front)).line (front ++ back) := by
    refine ⟨earlier, rest, by rw [split, joined]; simp, whole, ?_, unbrokenLine, ends⟩
    rw [whole.behind_eq unbroken]
  have column : (behind (earlier ++ front)).column = 1 + front.length := by
    rw [whole.behind_eq unbroken]
  have cut := extract?_behind split
  by_cases across : '\n' ∈ run
  · obtain ⟨first, more, rfl, unbrokenFirst⟩ := List.eq_append_cons_of_mem across
    have nonempty : first ≠ [] := by
      rintro rfl
      exact inside rfl
    have covered : Text.withoutCarriageReturn first = back :=
      ends.withoutCarriageReturn_eq unbrokenLine (by simpa using joined) nonempty unbrokenFirst
    refine ⟨front, back, [], ⟨by simpa using isLine, column, _, cut, ?_⟩, ?_⟩
    · rw [String.toList_ofList, Text.lines_feed unbrokenFirst, List.headD_cons, covered]
    · rw [List.append_nil, markedColumns_across whole unbroken across]
  · have closesRun : after = [] ∨ ∀ character ∈ run.getLast?, Token.isBlank character = false := by
      refine closes.imp_right fun blank character last => blank character ?_
      have nonempty : run ≠ [] := by
        rintro rfl
        cases last
      rwa [List.getLast?_append_of_ne_nil _ nonempty]
    obtain ⟨beyond, rfl⟩ := ends.prefix_of_words joined across closesRun
    refine ⟨front, run, beyond, ⟨by simpa using isLine, column, _, cut, ?_⟩,
      markedColumns_inside whole unbroken across _⟩
    rw [String.toList_ofList, Text.lines_unended across]
    by_cases empty : run = [] <;> simp [empty]

end Span

end CalcScript
