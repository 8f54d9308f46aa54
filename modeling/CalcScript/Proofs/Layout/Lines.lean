import CalcScript.Diagnostic.Marked
import CalcScript.Proofs.Layout.Places

/-!
# Lines of a text

A place counts line feeds, while the lines of a text are cut at line endings and the one after a
final line feed is left out. Both agree: the line that a place is on is the one with its number, or
an empty one if the text has no line with that number.
-/

set_option autoImplicit false

namespace CalcScript.Text

/-- Characters that make up whole lines, each with the line feed that ends it. -/
inductive WholeLines : List Char → Prop where
  | nil : WholeLines []
  | line {raw rest : List Char} :
      '\n' ∉ raw → WholeLines rest → WholeLines (raw ++ '\n' :: rest)

/-- A line that ends in front of the rest of a text: before a line feed, which takes one carriage
return before it along, or else at the end of the text. -/
inductive EndsLine : List Char → List Char → Prop where
  | feed {line later : List Char} :
      line.getLast? ≠ some '\r' → EndsLine line ('\n' :: later)
  | returnFeed {line later : List Char} : EndsLine line ('\r' :: '\n' :: later)
  | endOfText {line : List Char} : EndsLine line []

variable {raw line front rest : List Char}

/-! ## How a text is cut into lines -/

theorem linesFrom_append (unbroken : '\n' ∉ raw) (current rest : List Char) :
    linesFrom current (raw ++ rest) = linesFrom (raw.reverse ++ current) rest := by
  induction raw generalizing current with
  | nil => rfl
  | cons character raw ih =>
      obtain ⟨noFeed, later⟩ := not_or.mp (mt List.mem_cons.mpr unbroken)
      rw [List.cons_append, linesFrom, if_neg (Ne.symm noFeed), ih later]
      simp

theorem lines_feed (unbroken : '\n' ∉ raw) (rest : List Char) :
    lines (raw ++ '\n' :: rest) = withoutCarriageReturn raw :: lines rest := by
  rw [lines, linesFrom_append unbroken, linesFrom, if_pos rfl]
  simp [lines]

theorem lines_unended (unbroken : '\n' ∉ raw) : lines raw = if raw = [] then [] else [raw] := by
  have whole := linesFrom_append unbroken [] []
  rw [List.append_nil] at whole
  rw [lines, whole, linesFrom]
  by_cases empty : raw = [] <;> simp [empty]

theorem withoutCarriageReturn_of_ne (other : line.getLast? ≠ some '\r') :
    withoutCarriageReturn line = line :=
  if_neg other

theorem withoutCarriageReturn_append : withoutCarriageReturn (line ++ ['\r']) = line := by
  rw [withoutCarriageReturn, if_pos (by simp), List.dropLast_concat]

/-- The first line of a text that starts with a line. -/
theorem EndsLine.headD_lines (ends : EndsLine line rest) (unbroken : '\n' ∉ line) :
    (lines (line ++ rest)).headD [] = line := by
  cases ends with
  | feed other => rw [lines_feed unbroken, withoutCarriageReturn_of_ne other, List.headD_cons]
  | @returnFeed later =>
      have split : line ++ '\r' :: '\n' :: later = (line ++ ['\r']) ++ '\n' :: later := by simp
      rw [split, lines_feed (by simpa using unbroken), withoutCarriageReturn_append,
        List.headD_cons]
  | endOfText =>
      rw [List.append_nil, lines_unended unbroken]
      by_cases empty : line = [] <;> simp [empty]

/-- No line is longer than its text. -/
theorem length_le_of_mem_linesFrom {current characters : List Char}
    (among : line ∈ linesFrom current characters) :
    line.length ≤ current.length + characters.length := by
  fun_induction linesFrom current characters with
  | case1 current finished => cases among
  | case2 current unfinished => simp [List.mem_singleton.mp among]
  | case3 current rest ih =>
      rcases List.mem_cons.mp among with rfl | among
      · unfold withoutCarriageReturn
        split
        · rw [List.length_dropLast, List.length_reverse]
          omega
        · rw [List.length_reverse]
          exact Nat.le_add_right _ _
      · have shorter := ih among
        simp at shorter ⊢
        omega
  | case4 current character rest other ih =>
      have shorter := ih among
      simp at shorter ⊢
      omega

theorem length_line_le (source : String) (number : Nat) :
    (Text.line source number).length ≤ source.length := by
  unfold Text.line
  cases found : (lines source.toList)[number - 1]? with
  | none => simp
  | some line =>
      have shorter := length_le_of_mem_linesFrom (List.mem_of_getElem? found)
      rw [String.length_toList] at shorter
      simpa using shorter

/-! ## The line of a place -/

namespace WholeLines

variable {earlier : List Char}

theorem eq_nil_or_concat (whole : WholeLines earlier) :
    earlier = [] ∨ ∃ initial, earlier = initial ++ ['\n'] := by
  induction whole with
  | nil => exact .inl rfl
  | @line raw rest _ _ ih =>
      right
      rcases ih with rfl | ⟨initial, rfl⟩
      · exact ⟨raw, rfl⟩
      · exact ⟨raw ++ '\n' :: initial, by simp⟩

/-- The lines of a text that starts with whole lines are those and the lines of what follows. -/
theorem getElem?_lines (whole : WholeLines earlier) (rest : List Char) :
    (lines (earlier ++ rest))[earlier.count '\n']? = (lines rest)[0]? := by
  induction whole with
  | nil => rfl
  | line unbroken _ ih =>
      rw [List.append_assoc, List.cons_append, lines_feed unbroken, List.count_append,
        List.count_eq_zero.mpr unbroken, List.count_cons_self, Nat.zero_add,
        List.getElem?_cons_succ]
      exact ih

theorem line_eq (whole : WholeLines earlier) {source : String}
    (split : source.toList = earlier ++ rest) :
    Text.line source (1 + earlier.count '\n') = (lines rest).headD [] := by
  rw [Text.line, split, Nat.add_sub_cancel_left, whole.getElem?_lines]
  cases lines rest <;> rfl

theorem behind_eq (whole : WholeLines earlier) (unbroken : '\n' ∉ front) :
    Position.behind (earlier ++ front) =
      ⟨byteLength (earlier ++ front), 1 + earlier.count '\n', 1 + front.length⟩ := by
  have feeds : (earlier ++ front).count '\n' = earlier.count '\n' := by
    rw [List.count_append, List.count_eq_zero.mpr unbroken, Nat.add_zero]
  have onLine : ∀ character ∈ front.reverse, (character ≠ '\n' : Bool) = true := by
    intro character among
    simp only [decide_eq_true_eq]
    exact fun feed => unbroken (feed ▸ List.mem_reverse.mp among)
  have last : (earlier.reverse.takeWhile fun character => (character ≠ '\n' : Bool)) = [] := by
    rcases whole.eq_nil_or_concat with rfl | ⟨initial, rfl⟩ <;> simp
  rw [Position.behind, feeds, List.reverse_append, List.takeWhile_append_of_pos onLine, last]
  simp

end WholeLines

/-- The characters in front of a place: whole lines and a part of the line of the place. -/
theorem exists_wholeLines (before : List Char) :
    ∃ earlier front, before = earlier ++ front ∧ WholeLines earlier ∧ '\n' ∉ front := by
  induction before with
  | nil => exact ⟨[], [], rfl, .nil, by simp⟩
  | cons character before ih =>
      obtain ⟨earlier, front, rfl, whole, unbroken⟩ := ih
      by_cases feed : character = '\n'
      · subst feed
        have noFeed : '\n' ∉ ([] : List Char) := List.not_mem_nil
        exact ⟨'\n' :: earlier, front, rfl, .line noFeed whole, unbroken⟩
      · cases whole with
        | nil => exact ⟨[], character :: front, rfl, .nil, by simp [Ne.symm feed, unbroken]⟩
        | @line raw later unbrokenRaw whole =>
            refine ⟨(character :: raw) ++ '\n' :: later, front, rfl, .line ?_ whole, unbroken⟩
            simp [Ne.symm feed, unbrokenRaw]

/-- The characters behind a place in the middle of a line, which is to say not between the two
characters of a line ending: the rest of the line and what follows it. -/
theorem exists_endsLine (front : List Char) {after : List Char} (inside : after.head? ≠ some '\n') :
    ∃ back rest, after = back ++ rest ∧ '\n' ∉ back ∧ EndsLine (front ++ back) rest := by
  have joined := (List.takeWhile_append_dropWhile (p := fun character => (character ≠ '\n' : Bool))
    (l := after)).symm
  have unbroken : '\n' ∉ after.takeWhile fun character => (character ≠ '\n' : Bool) := by
    intro among
    simpa using List.all_eq_true.mp List.all_takeWhile _ among
  have stopped := List.head?_dropWhile_not (fun character => (character ≠ '\n' : Bool)) after
  generalize after.takeWhile _ = raw at joined unbroken
  generalize after.dropWhile _ = tail at joined stopped
  subst joined
  rcases tail with _ | ⟨feed, later⟩
  case nil => exact ⟨raw, [], rfl, unbroken, .endOfText⟩
  case cons =>
    obtain rfl : feed = '\n' := by simpa using stopped
    rcases List.eq_nil_or_concat raw with rfl | ⟨initial, last, split⟩
    · exact absurd rfl inside
    · rw [List.concat_eq_append] at split
      subst split
      by_cases carriage : last = '\r'
      · subst carriage
        refine ⟨initial, '\r' :: '\n' :: later, by simp, ?_, .returnFeed⟩
        exact fun among => unbroken (List.mem_append_left _ among)
      · refine ⟨initial ++ [last], '\n' :: later, rfl, unbroken, .feed ?_⟩
        simpa [← List.append_assoc] using carriage

end CalcScript.Text
