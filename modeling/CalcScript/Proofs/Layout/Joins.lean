import CalcScript.Proofs.Layout.Branches

/-!
# Places in one order

The parts of a place are counted separately, and columns start anew on every line. On one text they
still never disagree: a place behind another one has more bytes in front of it, and it stands on a
later line or further along on the same one. Places of different texts need not be ordered alike.

So the spans of a text are ordered by what they reach over. Their join is the least span that reaches
over both, and what it covers holds what they cover.
-/

set_option autoImplicit false

namespace CalcScript

namespace Position

/-- How two places stand by their lines, and on one line by their columns. -/
def compareLines (first second : Position) : Ordering :=
  (compare first.line second.line).then (compare first.column second.column)

variable {first second place : Position}

theorem compareLines_eq_lt_iff : first.compareLines second = .lt ↔
    first.line < second.line ∨ first.line = second.line ∧ first.column < second.column := by
  simp only [compareLines, Ordering.then_eq_lt, Nat.compare_eq_lt, Nat.compare_eq_eq]

theorem compareLines_eq_eq_iff : first.compareLines second = .eq ↔
    first.line = second.line ∧ first.column = second.column := by
  simp only [compareLines, Ordering.then_eq_eq, Nat.compare_eq_eq]

theorem compareLines_eq_gt_iff : first.compareLines second = .gt ↔
    second.line < first.line ∨ first.line = second.line ∧ second.column < first.column := by
  simp only [compareLines, Ordering.then_eq_gt, Nat.compare_eq_gt, Nat.compare_eq_eq]

theorem compareLines_after (place : Position) (character : Char) :
    place.compareLines (place.after character) = .lt := by
  apply compareLines_eq_lt_iff.mpr
  unfold after
  split
  · exact .inl (Nat.lt_succ_self _)
  · exact .inr ⟨rfl, Nat.lt_succ_self _⟩

theorem compareLines_trans (lower : first.compareLines second = .lt)
    (upper : second.compareLines place = .lt) : first.compareLines place = .lt := by
  simp only [compareLines_eq_lt_iff] at *
  omega

theorem compareLines_advance (place : Position) {run : List Char} (nonempty : run ≠ []) :
    place.compareLines (place.advance run) = .lt := by
  induction run generalizing place with
  | nil => exact absurd rfl nonempty
  | cons character rest ih =>
      have step := compareLines_after place character
      cases rest with
      | nil => exact step
      | cons next rest => exact compareLines_trans step (ih _ (List.cons_ne_nil next rest))

theorem compare_eq_then (first second : Position) : compare first second =
    (compare first.offset second.offset).then (first.compareLines second) := rfl

theorem eq_of_isLE (lower : (compare first second).isLE = true)
    (upper : (compare second first).isLE = true) : first = second := by
  obtain ⟨offset, line, column⟩ := first
  obtain ⟨otherOffset, otherLine, otherColumn⟩ := second
  simp only [isLE_iff, mk.injEq] at *
  omega

/-! ## Places behind the first characters of one text -/

/-- All three ways to compare two places come to the same. -/
structure Ranked (first second : Position) (order : Ordering) : Prop where
  whole : compare first second = order
  offset : compare first.offset second.offset = order
  lines : first.compareLines second = order

theorem ranked_behind_append (before : List Char) {run : List Char} (nonempty : run ≠ []) :
    Ranked (behind before) (behind (before ++ run)) .lt ∧
      Ranked (behind (before ++ run)) (behind before) .gt := by
  have positive := Text.byteLength_pos nonempty
  have fewer : (behind before).offset < (behind (before ++ run)).offset := by
    simp only [behind, Text.byteLength_append]
    omega
  have offset := Nat.compare_eq_lt.mpr fewer
  have offsetBack := Nat.compare_eq_gt.mpr fewer
  have lines := compareLines_advance (behind before) nonempty
  rw [behind_advance] at lines
  have linesBack : (behind (before ++ run)).compareLines (behind before) = .gt := by
    have further := compareLines_eq_lt_iff.mp lines
    exact compareLines_eq_gt_iff.mpr (by omega)
  exact ⟨⟨by rw [compare_eq_then, offset]; rfl, offset, lines⟩,
    ⟨by rw [compare_eq_then, offsetBack]; rfl, offsetBack, linesBack⟩⟩

theorem ranked_self (place : Position) : Ranked place place .eq := by
  have offset : compare place.offset place.offset = .eq := Nat.compare_eq_eq.mpr rfl
  have lines := compareLines_eq_eq_iff.mpr ⟨@rfl _ place.line, @rfl _ place.column⟩
  exact ⟨by rw [compare_eq_then, offset, lines]; rfl, offset, lines⟩

variable {text before longer : List Char}

/-- Of two beginnings of a text one goes on where the other stops, and their places show which. -/
theorem exists_ranked (isBefore : before <+: text) (isLonger : longer <+: text) :
    ∃ order, Ranked (behind before) (behind longer) order ∧ (order = .eq ↔ before = longer) ∧
      (order.isLE = true ↔ before <+: longer) := by
  rcases List.prefix_or_prefix_of_prefix isBefore isLonger with ⟨run, rfl⟩ | ⟨run, rfl⟩
  · rcases eq_or_ne run [] with rfl | nonempty
    · simpa using ranked_self _
    · exact ⟨.lt, (ranked_behind_append before nonempty).1, by simpa using nonempty, by simp⟩
  · rcases eq_or_ne run [] with rfl | nonempty
    · simpa using ranked_self _
    · have moreThan : ¬longer ++ run <+: longer := by
        intro shorter
        have length := shorter.length_le
        have positive := List.length_pos_iff.mpr nonempty
        rw [List.length_append] at length
        omega
      exact ⟨.gt, (ranked_behind_append longer nonempty).2, by simpa using nonempty,
        by simp [moreThan]⟩

theorem prefix_of_offset_le (isBefore : before <+: text) (isLonger : longer <+: text)
    (ordered : (behind before).offset ≤ (behind longer).offset) : before <+: longer := by
  obtain ⟨order, ranked, -, within⟩ := exists_ranked isBefore isLonger
  exact within.mp (ranked.offset ▸ Nat.isLE_compare.mpr ordered)

theorem prefix_of_isLE (isBefore : before <+: text) (isLonger : longer <+: text)
    (ordered : (compare (behind before) (behind longer)).isLE = true) : before <+: longer :=
  prefix_of_offset_le isBefore isLonger (offset_le_of_isLE ordered)

end Position

/-! ## The least span around two -/

namespace Span

open Position

variable {inner outer left right span : Span} {source : String}

theorem Inside.refl (span : Span) : span.Inside span := ⟨isLE_refl _, isLE_refl _⟩

theorem Inside.trans (lower : inner.Inside span) (upper : span.Inside outer) :
    inner.Inside outer :=
  ⟨isLE_trans upper.start lower.start, isLE_trans lower.stop upper.stop⟩

theorem Inside.antisymm (lower : left.Inside right) (upper : right.Inside left) : left = right := by
  have start := eq_of_isLE upper.start lower.start
  have stop := eq_of_isLE lower.stop upper.stop
  obtain ⟨leftStart, leftStop⟩ := left
  cases start
  cases stop
  rfl

theorem join_inside_iff : (left.join right).Inside span ↔ left.Inside span ∧ right.Inside span :=
  ⟨fun both => ⟨(inside_join_left left right).trans both, (inside_join_right left right).trans both⟩,
    fun ⟨inLeft, inRight⟩ => inLeft.join inRight⟩

theorem join_comm (left right : Span) : left.join right = right.join left :=
  Inside.antisymm ((inside_join_right right left).join (inside_join_left right left))
    ((inside_join_right left right).join (inside_join_left left right))

theorem join_assoc (first second third : Span) :
    (first.join second).join third = first.join (second.join third) := by
  have rightwards := join_inside_iff.mp (Inside.refl (first.join (second.join third)))
  have leftwards := join_inside_iff.mp (Inside.refl ((first.join second).join third))
  have inner := join_inside_iff.mp rightwards.2
  have outer := join_inside_iff.mp leftwards.1
  exact Inside.antisymm ((rightwards.1.join inner.1).join inner.2)
    (outer.1.join (outer.2.join leftwards.2))

theorem join_self (span : Span) : span.join span = span :=
  Inside.antisymm ((Inside.refl span).join (Inside.refl span)) (inside_join_left span span)

/-- A span that covers what another covers, with something in front and something behind. -/
def CoversText (outer inner : Span) (source : String) : Prop :=
  ∃ front text back, inner.extract? source = some (String.ofList text) ∧
    outer.extract? source = some (String.ofList (front ++ text ++ back))

theorem Inside.coversText (inside : inner.Inside outer) (isInner : inner.Within source)
    (isOuter : outer.Within source) : outer.CoversText inner source := by
  obtain ⟨start, stop⟩ := inner
  obtain ⟨outerStart, outerStop⟩ := outer
  obtain ⟨⟨beforeInner, _, splitInner, rfl⟩, ⟨toInner, _, splitToInner, rfl⟩, ordered⟩ := isInner
  obtain ⟨⟨before, _, splitOuter, rfl⟩, ⟨toOuter, after, splitToOuter, rfl⟩, -⟩ := isOuter
  -- the four places are behind four beginnings of the text, each of which goes on the one before
  obtain ⟨front, rfl⟩ := prefix_of_isLE ⟨_, splitOuter.symm⟩ ⟨_, splitInner.symm⟩ inside.start
  obtain ⟨text, rfl⟩ := prefix_of_isLE ⟨_, splitInner.symm⟩ ⟨_, splitToInner.symm⟩ ordered
  obtain ⟨back, rfl⟩ := prefix_of_isLE ⟨_, splitToInner.symm⟩ ⟨_, splitToOuter.symm⟩ inside.stop
  refine ⟨front, text, back, ?_, ?_⟩
  · have split : source.toList = before ++ front ++ (text ++ (back ++ after)) := by
      simpa using splitToOuter
    exact extract?_behind split
  · have split : source.toList = before ++ (front ++ text ++ back ++ after) := by
      simpa using splitToOuter
    simpa using extract?_behind split

/-- The least span of a text that reaches over two others, and covers what they cover. -/
structure LeastAround (outer left right : Span) (source : String) : Prop where
  within : outer.Within source
  overLeft : left.Inside outer
  overRight : right.Inside outer
  least : ∀ span : Span, span.Within source → left.Inside span → right.Inside span →
    outer.Inside span
  coversLeft : outer.CoversText left source
  coversRight : outer.CoversText right source

theorem Within.leastAround (inLeft : left.Within source) (inRight : right.Within source) :
    (left.join right).LeastAround left right source where
  within := inLeft.join inRight
  overLeft := inside_join_left left right
  overRight := inside_join_right left right
  least := fun _ _ overLeft overRight => overLeft.join overRight
  coversLeft := (inside_join_left left right).coversText inLeft (inLeft.join inRight)
  coversRight := (inside_join_right left right).coversText inRight (inLeft.join inRight)

/-- Bytes, lines with columns, and places as a whole order the beginnings of a text in one way, and
so its spans have joins. -/
theorem places_in_one_order (source : String) :
    (∀ before longer, before <+: source.toList → longer <+: source.toList →
      compare (behind before) (behind longer) =
          compare (behind before).offset (behind longer).offset ∧
        compare (behind before) (behind longer) = (behind before).compareLines (behind longer) ∧
        (behind before = behind longer ↔ before = longer)) ∧
      ∀ first second third : Span, first.Within source → second.Within source →
        third.Within source →
          (first.join second).LeastAround first second source ∧
            first.join second = second.join first ∧
            (first.join second).join third = first.join (second.join third) ∧
            first.join first = first := by
  constructor
  · intro before longer isBefore isLonger
    obtain ⟨order, ranked, same, -⟩ := exists_ranked isBefore isLonger
    refine ⟨ranked.whole.trans ranked.offset.symm, ranked.whole.trans ranked.lines.symm, ?_, ?_⟩
    · intro alike
      rw [alike] at ranked
      exact same.mp (ranked.whole.symm.trans (ranked_self _).whole)
    · exact congrArg behind
  · intro first second third inFirst inSecond _
    exact ⟨inFirst.leastAround inSecond, join_comm first second, join_assoc first second third,
      join_self first⟩

end Span

end CalcScript
