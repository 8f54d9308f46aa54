import CalcScript.Proofs.Printing.Spelling

/-!
# Printed leaves

A leaf is printed as a run of letters or of digits, and ends before any character that is neither.
Whole numbers are told apart by how they are printed, and from names too, but for an infinite one.
-/

set_option autoImplicit false

namespace CalcScript

/-- The characters that leaves are printed with. -/
def Text.isLeafCharacter (character : Char) : Bool :=
  isCased character || Number.isDigit character

/-- A text that does not carry on a leaf in front of it. -/
def Text.EndsLeaf (rest : List Char) : Prop :=
  ∀ character ∈ rest.head?, isLeafCharacter character = false

theorem Text.endsLeaf_cons {character : Char} {rest : List Char}
    (foreign : isLeafCharacter character = false) : EndsLeaf (character :: rest) := by
  intro first among
  cases among
  exact foreign

theorem Text.endsLeaf_blank {rest : List Char} : EndsLeaf (' ' :: rest) :=
  endsLeaf_cons (by decide +kernel)

theorem Text.endsLeaf_close {rest : List Char} : EndsLeaf (')' :: rest) :=
  endsLeaf_cons (by decide +kernel)

namespace Text.IsRun

variable {accepts : Char → Bool} {run other first second : List Char}

theorem imp (isRun : IsRun accepts run) {admits : Char → Bool}
    (weaker : ∀ character, accepts character = true → admits character = true) :
    IsRun admits run :=
  ⟨isRun.nonempty, fun character among => weaker character (isRun.accepted character among)⟩

theorem isLeaf (isRun : IsRun isCased run) : IsRun isLeafCharacter run :=
  isRun.imp fun character cased => by simp [isLeafCharacter, cased]

/-- Two runs that are both ended are the same if the texts are. -/
theorem append_inj (isRun : IsRun isLeafCharacter run) (isOther : IsRun isLeafCharacter other)
    (endsFirst : EndsLeaf first) (endsSecond : EndsLeaf second)
    (same : run ++ first = other ++ second) : run = other ∧ first = second := by
  have longest : Token.Longest isLeafCharacter run first := ⟨isRun.accepted, endsFirst⟩
  have longestOther : Token.Longest isLeafCharacter other second := ⟨isOther.accepted, endsSecond⟩
  refine ⟨?_, ?_⟩
  · rw [← longest.takeWhile_eq, same, longestOther.takeWhile_eq]
  · rw [← longest.dropWhile_eq, same, longestOther.dropWhile_eq]

/-- A leaf is not printed like a compound. -/
theorem append_ne (isRun : IsRun isLeafCharacter run) : run ++ first ≠ '(' :: second := by
  obtain ⟨initial, later, rfl⟩ := List.exists_cons_of_ne_nil isRun.nonempty
  intro same
  cases same
  cases isRun.accepted '(' List.mem_cons_self

end Text.IsRun

namespace Number

open Text

/-- The number that is printed as `inf`. -/
def infinity : Float := Binary64.ofPattern false Binary64.infinityPattern

/-- A whole number is printed as a run of digits from which it is read again, or is infinite. -/
theorem digits_or_infinity (whole : Nat) :
    (IsRun isDigit (text (ofWhole whole)).toList ∧
        read? (text (ofWhole whole)) = some (ofWhole whole)) ∨
      ofWhole whole = infinity := by
  rcases Nat.lt_or_eq_of_le (decimalPattern_le whole) with finite | infinite
  · obtain ⟨digits, nonempty, run, shown, read⟩ := exists_digits_of_finite finite
    rw [shown, String.toList_ofList]
    exact .inl ⟨⟨nonempty, run⟩, read⟩
  · exact .inr (congrArg (Binary64.ofPattern false) infinite)

theorem isRun_inf : IsRun isCased "inf".toList := by
  refine ⟨by decide, List.all_eq_true.mp (by decide +kernel)⟩

/-- No run is both of letters and of digits. -/
theorem not_isDigit_of_isCased {characters : List Char} (cased : IsRun isCased characters)
    (digits : IsRun isDigit characters) : False := by
  obtain ⟨initial, later, rfl⟩ := List.exists_cons_of_ne_nil cased.nonempty
  have letter := cased.accepted initial List.mem_cons_self
  have digit := digits.accepted initial List.mem_cons_self
  cases letter.symm.trans (Token.isCased_of_isDigit digit)

theorem isRun_text (whole : Nat) : IsRun isLeafCharacter (text (ofWhole whole)).toList := by
  rcases digits_or_infinity whole with ⟨digits, -⟩ | infinite
  · exact digits.imp fun character digit => by simp [isLeafCharacter, digit]
  · rw [infinite, infinity, text_infinity]
    exact isRun_inf.isLeaf

/-- Whole numbers are told apart by their digits. -/
theorem ofWhole_eq_of_text {whole other : Nat}
    (same : text (ofWhole whole) = text (ofWhole other)) : ofWhole whole = ofWhole other := by
  rcases digits_or_infinity whole with ⟨digits, read⟩ | infinite <;>
    rcases digits_or_infinity other with ⟨digitsOther, readOther⟩ | infiniteOther
  · rw [same, readOther] at read
    exact (Option.some.inj read).symm
  · rw [same, infiniteOther, infinity, text_infinity] at digits
    exact (not_isDigit_of_isCased isRun_inf digits).elim
  · rw [← same, infinite, infinity, text_infinity] at digitsOther
    exact (not_isDigit_of_isCased isRun_inf digitsOther).elim
  · rw [infinite, infiniteOther]

/-- Only an infinite number is printed like a name. -/
theorem ofWhole_eq_infinity {whole : Nat} {name : String} (cased : IsRun isCased name.toList)
    (same : text (ofWhole whole) = name) : ofWhole whole = infinity ∧ name = "inf" := by
  subst same
  rcases digits_or_infinity whole with ⟨digits, -⟩ | infinite
  · exact (not_isDigit_of_isCased cased digits).elim
  · rw [infinite]
    exact ⟨rfl, text_infinity⟩

end Number

end CalcScript
