import CalcScript.Text.Span

/-!
# Places of a text

A place of a text is told by the characters in front of it, without walking over them: their bytes,
the line feeds among them, and the characters after the last line feed. A span lies within a text
if both its ends are places of the text and the first is not behind the second. What it covers can
then be cut out of the text, and spans within a text are joined to spans within it.
-/

set_option autoImplicit false

namespace CalcScript

namespace Text

/-- Number of bytes that characters take up. -/
def byteLength (characters : List Char) : Nat := (String.ofList characters).utf8ByteSize

@[simp]
theorem byteLength_nil : byteLength [] = 0 := rfl

@[simp]
theorem byteLength_cons (character : Char) (characters : List Char) :
    byteLength (character :: characters) = character.utf8Size + byteLength characters := by
  rw [byteLength, String.ofList_cons, String.utf8ByteSize_append, String.utf8ByteSize_singleton,
    byteLength]

@[simp]
theorem byteLength_append (first second : List Char) :
    byteLength (first ++ second) = byteLength first + byteLength second := by
  rw [byteLength, String.ofList_append, String.utf8ByteSize_append, byteLength, byteLength]

theorem byteLength_pos {characters : List Char} (nonempty : characters ≠ []) :
    0 < byteLength characters := by
  obtain ⟨character, rest, rfl⟩ := List.exists_cons_of_ne_nil nonempty
  rw [byteLength_cons]
  exact Nat.lt_of_lt_of_le character.utf8Size_pos (Nat.le_add_right ..)

theorem dropBytes?_cons (character : Char) (rest : List Char) (bytes : Nat) :
    dropBytes? (character :: rest) (character.utf8Size + bytes) = dropBytes? rest bytes := by
  have positive := character.utf8Size_pos
  rw [dropBytes?, if_pos (Nat.le_add_right _ _), Nat.add_sub_cancel_left]
  omega

theorem takeBytes?_cons (character : Char) (rest : List Char) (bytes : Nat) :
    takeBytes? (character :: rest) (character.utf8Size + bytes) =
      (takeBytes? rest bytes).map (character :: ·) := by
  have positive := character.utf8Size_pos
  rw [takeBytes?, if_pos (Nat.le_add_right _ _), Nat.add_sub_cancel_left]
  omega

theorem dropBytes?_append (front rest : List Char) :
    dropBytes? (front ++ rest) (byteLength front) = some rest := by
  induction front with
  | nil => cases rest <;> rfl
  | cons character front ih => rw [byteLength_cons, List.cons_append, dropBytes?_cons, ih]

theorem takeBytes?_append (front rest : List Char) :
    takeBytes? (front ++ rest) (byteLength front) = some front := by
  induction front with
  | nil => cases rest <;> rfl
  | cons character front ih =>
      rw [byteLength_cons, List.cons_append, takeBytes?_cons, ih]
      rfl

theorem slice?_append (before run after : List Char) :
    slice? (before ++ (run ++ after)) (byteLength before) (byteLength (before ++ run)) =
      some run := by
  have ordered : byteLength before ≤ byteLength (before ++ run) := by simp
  have size : byteLength (before ++ run) - byteLength before = byteLength run := by simp
  rw [slice?, if_pos ordered, dropBytes?_append, size]
  exact takeBytes?_append run after

end Text

namespace Position

/-- The place behind the first characters of a text. -/
def behind (characters : List Char) : Position where
  offset := Text.byteLength characters
  line := 1 + characters.count '\n'
  column := 1 + (characters.reverse.takeWhile (· ≠ '\n')).length

theorem behind_concat (characters : List Char) (character : Char) :
    behind (characters ++ [character]) = (behind characters).after character := by
  by_cases feed : character = '\n'
  · subst feed
    simp [behind, after, Nat.add_assoc]
  · simp [behind, after, feed, Nat.add_comm]

/-- A walk over the first characters of a text leads to the place behind them. -/
theorem start_advance (characters : List Char) : start.advance characters = behind characters := by
  -- the last character decides the step, so the induction is on the walk backwards
  suffices reversed : ∀ backwards : List Char,
      start.advance backwards.reverse = behind backwards.reverse by
    simpa using reversed characters.reverse
  intro backwards
  induction backwards with
  | nil => rfl
  | cons character backwards ih =>
      rw [List.reverse_cons, advance_append, ih, behind_concat]
      rfl

theorem behind_advance (before characters : List Char) :
    (behind before).advance characters = behind (before ++ characters) := by
  rw [← start_advance, ← advance_append, start_advance]

/-! ## The order of places -/

section Order

variable {first second third : Position}

theorem isLE_iff : (compare first second).isLE = true ↔
    first.offset < second.offset ∨ first.offset = second.offset ∧
      (first.line < second.line ∨ first.line = second.line ∧ first.column ≤ second.column) := by
  change ((compare first.offset second.offset).then ((compare first.line second.line).then
    (compare first.column second.column))).isLE = true ↔ _
  simp only [Ordering.isLE_then_iff_and, Nat.isLE_compare, Nat.compare_eq_lt]
  omega

theorem isLE_refl (place : Position) : (compare place place).isLE = true := by
  rw [isLE_iff]
  omega

theorem isLE_trans (lower : (compare first second).isLE = true)
    (upper : (compare second third).isLE = true) : (compare first third).isLE = true := by
  rw [isLE_iff] at *
  omega

theorem isLE_of_not_isLE (unordered : ¬(compare first second).isLE = true) :
    (compare second first).isLE = true := by
  rw [isLE_iff] at *
  omega

theorem isLE_of_offset_lt (lower : first.offset < second.offset) :
    (compare first second).isLE = true :=
  isLE_iff.mpr (.inl lower)

theorem offset_le_of_isLE (ordered : (compare first second).isLE = true) :
    first.offset ≤ second.offset := by
  rw [isLE_iff] at ordered
  omega

theorem offset_le_of_not_isLE (unordered : ¬(compare first second).isLE = true) :
    second.offset ≤ first.offset :=
  offset_le_of_isLE (isLE_of_not_isLE unordered)

theorem earlier_isLE_left (first second : Position) :
    (compare (first.earlier second) first).isLE = true := by
  unfold earlier
  split
  case isTrue => exact isLE_refl first
  case isFalse unordered => exact isLE_of_not_isLE unordered

theorem earlier_isLE_right (first second : Position) :
    (compare (first.earlier second) second).isLE = true := by
  unfold earlier
  split
  case isTrue ordered => exact ordered
  case isFalse => exact isLE_refl second

theorem isLE_later_left (first second : Position) :
    (compare first (first.later second)).isLE = true := by
  unfold later
  split
  case isTrue ordered => exact ordered
  case isFalse => exact isLE_refl first

theorem isLE_later_right (first second : Position) :
    (compare second (first.later second)).isLE = true := by
  unfold later
  split
  case isTrue => exact isLE_refl second
  case isFalse unordered => exact isLE_of_not_isLE unordered

/-- The earlier of two places is one of them. -/
theorem earlier_good (Good : Position → Prop) (goodFirst : Good first) (goodSecond : Good second) :
    Good (first.earlier second) := by
  unfold earlier
  split
  · exact goodFirst
  · exact goodSecond

theorem later_good (Good : Position → Prop) (goodFirst : Good first) (goodSecond : Good second) :
    Good (first.later second) := by
  unfold later
  split
  · exact goodSecond
  · exact goodFirst

theorem offset_earlier (left right : Position) :
    (left.earlier right).offset = min left.offset right.offset := by
  unfold earlier
  split
  case isTrue ordered => rw [Nat.min_eq_left (offset_le_of_isLE ordered)]
  case isFalse unordered => rw [Nat.min_eq_right (offset_le_of_not_isLE unordered)]

theorem offset_later (left right : Position) :
    (left.later right).offset = max left.offset right.offset := by
  unfold later
  split
  case isTrue ordered => rw [Nat.max_eq_right (offset_le_of_isLE ordered)]
  case isFalse unordered => rw [Nat.max_eq_left (offset_le_of_not_isLE unordered)]

theorem offset_advance (place : Position) (characters : List Char) :
    (place.advance characters).offset = place.offset + Text.byteLength characters := by
  induction characters generalizing place with
  | nil => rfl
  | cons character characters ih =>
      have step : (place.after character).offset = place.offset + character.utf8Size := by
        unfold after
        split <;> rfl
      rw [advance_cons, ih, step, Text.byteLength_cons, Nat.add_assoc]

theorem isLE_advance (place : Position) (characters : List Char) :
    (compare place (place.advance characters)).isLE = true := by
  cases characters with
  | nil => exact isLE_refl place
  | cons character rest =>
      apply isLE_of_offset_lt
      have positive := Text.byteLength_pos (List.cons_ne_nil character rest)
      rw [offset_advance]
      omega

end Order

/-! ## Places of one text -/

/-- A place of a text stands behind some of its characters, from the first on. -/
def IsIn (place : Position) (source : String) : Prop :=
  ∃ before after, source.toList = before ++ after ∧ place = behind before

variable {source : String} {left right : Position}

theorem IsIn.earlier (inLeft : left.IsIn source) (inRight : right.IsIn source) :
    (left.earlier right).IsIn source :=
  earlier_good (·.IsIn source) inLeft inRight

theorem IsIn.later (inLeft : left.IsIn source) (inRight : right.IsIn source) :
    (left.later right).IsIn source :=
  later_good (·.IsIn source) inLeft inRight

/-- Two places of a text with their bytes in order have characters of the text between them. -/
theorem IsIn.exists_between (inLeft : left.IsIn source) (inRight : right.IsIn source)
    (ordered : left.offset ≤ right.offset) :
    ∃ before run after, source.toList = before ++ (run ++ after) ∧ left = behind before ∧
      right = behind (before ++ run) := by
  obtain ⟨before, afterLeft, splitLeft, rfl⟩ := inLeft
  obtain ⟨longer, afterRight, splitRight, rfl⟩ := inRight
  have leftPrefix : before <+: source.toList := ⟨afterLeft, splitLeft.symm⟩
  have rightPrefix : longer <+: source.toList := ⟨afterRight, splitRight.symm⟩
  rcases List.prefix_or_prefix_of_prefix leftPrefix rightPrefix with ⟨run, rfl⟩ | ⟨extra, rfl⟩
  · exact ⟨before, run, afterRight, by rw [splitRight, List.append_assoc], rfl, rfl⟩
  · have empty : extra = [] := by
      cases extra with
      | nil => rfl
      | cons character extra =>
          have positive := character.utf8Size_pos
          simp [behind] at ordered
          omega
    subst empty
    exact ⟨longer, [], afterRight, by simpa using splitRight, by simp, by simp⟩

theorem isLE_behind_append (before run : List Char) :
    (compare (behind before) (behind (before ++ run))).isLE = true := by
  rw [← behind_advance]
  exact isLE_advance (behind before) run

theorem earlier_behind_append (before run : List Char) :
    (behind before).earlier (behind (before ++ run)) = behind before :=
  if_pos (isLE_behind_append before run)

theorem later_behind_append (before run : List Char) :
    (behind before).later (behind (before ++ run)) = behind (before ++ run) :=
  if_pos (isLE_behind_append before run)

end Position

namespace Span

open Position

/-- Both ends of a span are places of a text, and in order. -/
structure Within (span : Span) (source : String) : Prop where
  start : span.start.IsIn source
  stop : span.stop.IsIn source
  ordered : (compare span.start span.stop).isLE = true

variable {source : String} {span : Span}

theorem within_behind {before run after : List Char}
    (split : source.toList = before ++ (run ++ after)) :
    Within ⟨behind before, behind (before ++ run)⟩ source where
  start := ⟨before, run ++ after, split, rfl⟩
  stop := ⟨before ++ run, after, by rw [split, List.append_assoc], rfl⟩
  ordered := isLE_behind_append before run

theorem extract?_behind {before run after : List Char}
    (split : source.toList = before ++ (run ++ after)) :
    extract? ⟨behind before, behind (before ++ run)⟩ source = some (String.ofList run) := by
  change (Text.slice? source.toList (Text.byteLength before)
    (Text.byteLength (before ++ run))).map String.ofList = _
  rw [split, Text.slice?_append]
  rfl

theorem Within.extract?_isSome (within : span.Within source) :
    (span.extract? source).isSome = true := by
  obtain ⟨start, stop⟩ := span
  obtain ⟨before, run, after, split, rfl, rfl⟩ :=
    within.start.exists_between within.stop (offset_le_of_isLE within.ordered)
  rw [extract?_behind split]
  rfl

theorem Within.join {left right : Span} (inLeft : left.Within source)
    (inRight : right.Within source) : (left.join right).Within source := by
  have first := inLeft.start.earlier inRight.start
  have last := inLeft.stop.later inRight.stop
  have ordered : (left.join right).start.offset ≤ (left.join right).stop.offset := by
    have spanned := offset_le_of_isLE inLeft.ordered
    change (left.start.earlier right.start).offset ≤ (left.stop.later right.stop).offset
    rw [offset_earlier, offset_later]
    omega
  obtain ⟨before, run, after, -, start, stop⟩ := first.exists_between last ordered
  refine ⟨first, last, ?_⟩
  change (compare (left.start.earlier right.start) (left.stop.later right.stop)).isLE = true
  rw [start, stop]
  exact isLE_behind_append before run

end Span

end CalcScript
