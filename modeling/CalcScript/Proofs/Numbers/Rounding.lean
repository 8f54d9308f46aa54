import CalcScript.Proofs.Numbers.Patterns

/-!
# Rounding to doubles

A whole number of units rounds to a double if it is at most half a step away from it, and if not
between two doubles, then the even one of them. Among the doubles that a number could round to,
rounding finds the one whose steps are of the right size.
-/

set_option autoImplicit false

namespace CalcScript.Binary64

/-- A number of units that is nearest to a double, or half way and the double is even. -/
structure RoundsTo (amount pattern : Nat) : Prop where
  low : 4 * units pattern ≤ 4 * amount + roomBelow pattern
  high : 4 * amount ≤ 4 * units pattern + roomAbove pattern
  odd : significand pattern % 2 = 1 → 4 * units pattern < 4 * amount + roomBelow pattern ∧
    4 * amount < 4 * units pattern + roomAbove pattern

theorem roomBelow_eq (pattern : Nat) : roomBelow pattern =
    if scale pattern ≠ 0 ∧ significand pattern = Nat.pow 2 fractionBits then
      Nat.pow 2 (scale pattern)
    else 2 * Nat.pow 2 (scale pattern) := by
  have least := @le_significand pattern
  have most := significand_lt pattern
  have parts := pattern_eq pattern
  rw [roomBelow]
  apply if_congr _ rfl rfl
  rw [pow_fractionBits] at *
  omega

theorem roomBelow_le (pattern : Nat) : roomBelow pattern ≤ 2 * Nat.pow 2 (scale pattern) := by
  rw [roomBelow_eq]
  split <;> omega

theorem units_pos {pattern : Nat} (nonzero : pattern ≠ 0) : 0 < units pattern := by
  have parts := pattern_eq pattern
  have least := @le_significand pattern
  rw [pow_fractionBits] at *
  have steps : significand pattern ≠ 0 := by
    intro zero
    by_cases doubled : scale pattern = 0
    · rw [doubled] at parts
      omega
    · have enough := least doubled
      omega
  exact Nat.mul_pos (Nat.pos_of_ne_zero steps) (Nat.two_pow_pos _)

theorem roomBelow_lt {pattern : Nat} (nonzero : pattern ≠ 0) :
    roomBelow pattern < 4 * units pattern := by
  have room := roomBelow_le pattern
  have positive := units_pos nonzero
  have doubled := Nat.le_of_dvd positive (Dvd.intro_left (significand pattern) rfl)
  omega

/-- A double rounds to itself. -/
theorem roundsTo_units {pattern : Nat} : RoundsTo (units pattern) pattern := by
  have above : 0 < roomAbove pattern := Nat.mul_pos Nat.two_pos (Nat.two_pow_pos _)
  have below : 0 < roomBelow pattern := by
    rw [roomBelow_eq]
    have positive := Nat.two_pow_pos (scale pattern)
    change 0 < Nat.pow 2 _ at positive
    split <;> omega
  constructor <;> omega

/-! ## Whole quotients -/

/-- What a quotient is rounded to is at most a half away from it, and then even. -/
theorem roundedQuotient_eq {numerator denominator quotient : Nat} (positive : 0 < denominator)
    (low : 2 * (quotient * denominator) ≤ 2 * numerator + denominator)
    (high : 2 * numerator ≤ 2 * (quotient * denominator) + denominator)
    (odd : quotient % 2 = 1 → 2 * (quotient * denominator) < 2 * numerator + denominator ∧
      2 * numerator < 2 * (quotient * denominator) + denominator) :
    roundedQuotient numerator denominator = quotient := by
  have parts := Nat.div_add_mod' numerator denominator
  have less := Nat.mod_lt numerator positive
  unfold roundedQuotient
  generalize numerator / denominator = floor at *
  generalize numerator % denominator = rest at *
  have least : floor ≤ quotient := by
    by_contra fewer
    have scaled := Nat.mul_le_mul_right denominator (Nat.lt_of_not_le fewer)
    rw [Nat.succ_mul] at scaled
    omega
  have most : quotient ≤ floor + 1 := by
    by_contra more
    have scaled := Nat.mul_le_mul_right denominator (Nat.lt_of_not_le more)
    rw [Nat.succ_mul, Nat.succ_mul] at scaled
    omega
  have close : quotient = floor ∨ quotient = floor + 1 := by omega
  rcases close with rfl | rfl
  · dsimp only
    split
    · rfl
    · split <;> omega
  · have next : (floor + 1) * denominator = floor * denominator + denominator :=
      Nat.succ_mul floor denominator
    dsimp only
    split
    · omega
    · split <;> omega

theorem roundedQuotient_bounds {numerator denominator : Nat} :
    numerator / denominator ≤ roundedQuotient numerator denominator ∧
      roundedQuotient numerator denominator ≤ numerator / denominator + 1 := by
  unfold roundedQuotient
  dsimp only
  split
  · omega
  · split <;> omega

/-! ## The size of the steps -/

theorem least_steps_eq (doublings : Nat) :
    Nat.pow 2 fractionBits * Nat.pow 2 doublings = 2 ^ (fractionBits + doublings) :=
  (pow_add 2 fractionBits doublings).symm

theorem most_steps_eq (doublings : Nat) :
    2 * Nat.pow 2 fractionBits * Nat.pow 2 doublings = 2 ^ (fractionBits + doublings + 1) := by
  rw [Nat.mul_assoc, least_steps_eq, ← pow_succ']

/-- The doublings are as many as leave enough steps, and not too many. -/
theorem doublings_eq {amount doublings : Nat}
    (most : amount < 2 * Nat.pow 2 fractionBits * Nat.pow 2 doublings)
    (least : doublings = 0 ∨ Nat.pow 2 fractionBits * Nat.pow 2 doublings ≤ amount) :
    Nat.log2 amount - fractionBits = doublings := by
  rw [most_steps_eq] at most
  rw [least_steps_eq] at least
  rcases eq_or_ne amount 0 with rfl | nonzero
  · rcases least with rfl | enough
    · rfl
    · exact absurd enough (Nat.not_le.mpr (Nat.two_pow_pos _))
  · have below := (Nat.log2_lt nonzero).mpr most
    rcases least with rfl | enough
    · omega
    · have above := (Nat.le_log2 nonzero).mpr enough
      omega

theorem doublings_bounds (amount : Nat) :
    amount < 2 * Nat.pow 2 fractionBits * Nat.pow 2 (Nat.log2 amount - fractionBits) ∧
      (Nat.log2 amount - fractionBits = 0 ∨
        Nat.pow 2 fractionBits * Nat.pow 2 (Nat.log2 amount - fractionBits) ≤ amount) := by
  rw [most_steps_eq, least_steps_eq]
  constructor
  · apply Nat.lt_of_lt_of_le Nat.lt_log2_self
    apply Nat.pow_le_pow_right Nat.two_pos
    omega
  · by_cases small : Nat.log2 amount ≤ fractionBits
    · exact .inl (Nat.sub_eq_zero_of_le small)
    · have added : fractionBits + (Nat.log2 amount - fractionBits) = Nat.log2 amount := by omega
      rw [added]
      refine .inr (Nat.log2_self_le ?_)
      rintro rfl
      exact small (Nat.zero_le _)

theorem nearestPattern_eq {amount doublings steps : Nat}
    (doubled : Nat.log2 amount - fractionBits = doublings)
    (rounded : roundedQuotient amount (Nat.pow 2 doublings) = steps) :
    nearestPattern amount 1 =
      min (doublings * Nat.pow 2 fractionBits + steps) infinityPattern := by
  rw [nearestPattern, Nat.div_one, Nat.one_mul, doubled, rounded]

namespace RoundsTo

variable {amount pattern : Nat}

/-- A number that is as large as the doubles of its size is rounded among them. -/
theorem nearestPattern_of_enough (rounds : RoundsTo amount pattern)
    (finite : pattern < infinityPattern) (enough : scale pattern = 0 ∨
      Nat.pow 2 fractionBits * Nat.pow 2 (scale pattern) ≤ amount) :
    nearestPattern amount 1 = pattern := by
  obtain ⟨low, high, odd⟩ := rounds
  have positive : 0 < Nat.pow 2 (scale pattern) := Nat.two_pow_pos _
  have room := roomBelow_le pattern
  have fewer := Nat.mul_le_mul_right (Nat.pow 2 (scale pattern)) (significand_lt pattern)
  rw [Nat.succ_mul] at fewer
  rw [roomAbove] at high odd
  rw [units] at low high odd
  have doubled : Nat.log2 amount - fractionBits = scale pattern := by
    apply doublings_eq _ enough
    omega
  have rounded : roundedQuotient amount (Nat.pow 2 (scale pattern)) = significand pattern := by
    apply roundedQuotient_eq positive
    · omega
    · omega
    · intro isOdd
      have strict := odd isOdd
      omega
  rw [nearestPattern_eq doubled rounded, ← pattern_eq, Nat.min_eq_left finite.le]

/-- Only the first double of a size has smaller numbers round to it. -/
theorem significand_of_few (rounds : RoundsTo amount pattern) (doubled : scale pattern ≠ 0)
    (few : amount < Nat.pow 2 fractionBits * Nat.pow 2 (scale pattern)) :
    significand pattern = Nat.pow 2 fractionBits := by
  by_contra other
  have low := rounds.low
  have positive : 0 < Nat.pow 2 (scale pattern) := Nat.two_pow_pos _
  have room := roomBelow_le pattern
  have more := Nat.mul_le_mul_right (Nat.pow 2 (scale pattern))
    (Nat.lt_of_le_of_ne (le_significand doubled) (Ne.symm other))
  rw [Nat.succ_mul] at more
  rw [units] at low
  omega

/-- A smaller number that rounds to the first double of a size is rounded up from the size below. -/
theorem nearestPattern_of_few (rounds : RoundsTo amount pattern)
    (finite : pattern < infinityPattern) (doubled : scale pattern ≠ 0)
    (few : amount < Nat.pow 2 fractionBits * Nat.pow 2 (scale pattern)) :
    nearestPattern amount 1 = pattern := by
  have first := rounds.significand_of_few doubled few
  have parts := pattern_eq pattern
  have low := rounds.low
  rw [units, roomBelow_eq, if_pos ⟨doubled, first⟩, first] at low
  obtain ⟨halvings, next⟩ := Nat.exists_eq_succ_of_ne_zero doubled
  have twice : Nat.pow 2 (scale pattern) = 2 * Nat.pow 2 halvings := by
    rw [next]
    exact Nat.pow_succ'
  have positive : 0 < Nat.pow 2 halvings := Nat.two_pow_pos _
  rw [twice] at low few
  rw [pow_fractionBits] at low few
  have size : Nat.log2 amount - fractionBits = halvings := by
    apply doublings_eq <;> rw [pow_fractionBits] <;> omega
  have rounded : roundedQuotient amount (Nat.pow 2 halvings) = 2 * Nat.pow 2 fractionBits := by
    rw [pow_fractionBits]
    apply roundedQuotient_eq <;> omega
  have same : halvings * Nat.pow 2 fractionBits + 2 * Nat.pow 2 fractionBits = pattern := by
    rw [parts, next, first, Nat.succ_eq_add_one]
    ring
  rw [nearestPattern_eq size rounded, same, Nat.min_eq_left finite.le]

/-- A number of units that rounds to a double is rounded to it. -/
theorem nearestPattern_eq_pattern (rounds : RoundsTo amount pattern)
    (finite : pattern < infinityPattern) : nearestPattern amount 1 = pattern := by
  by_cases enough : scale pattern = 0 ∨
      Nat.pow 2 fractionBits * Nat.pow 2 (scale pattern) ≤ amount
  · exact rounds.nearestPattern_of_enough finite enough
  · obtain ⟨doubled, few⟩ := not_or.mp enough
    exact rounds.nearestPattern_of_few finite doubled (Nat.lt_of_not_le few)

end RoundsTo

/-! ## Whole numbers -/

/-- What is rounded to a finite double is kept if the steps allow it, and otherwise has a multiple
of the steps in its place. -/
theorem units_nearestPattern {amount : Nat} (finite : nearestPattern amount 1 < infinityPattern) :
    ∃ doublings, units (nearestPattern amount 1) =
      roundedQuotient amount (Nat.pow 2 doublings) * Nat.pow 2 doublings := by
  obtain ⟨most, least⟩ := doublings_bounds amount
  refine ⟨Nat.log2 amount - fractionBits, ?_⟩
  have bounded := @nearestPattern_eq amount _ _ rfl rfl
  rw [bounded] at finite ⊢
  have kept := (min_lt_iff.mp finite).resolve_right (Nat.lt_irrefl _)
  rw [Nat.min_eq_left kept.le]
  obtain ⟨floor, ceiling⟩ :=
    @roundedQuotient_bounds amount (Nat.pow 2 (Nat.log2 amount - fractionBits))
  apply units_eq
  · apply Nat.le_trans ceiling
    exact (Nat.div_lt_iff_lt_mul (Nat.two_pow_pos _)).mpr most
  · apply least.imp_right
    intro enough
    apply Nat.le_trans _ floor
    exact (Nat.le_div_iff_mul_le (Nat.two_pow_pos _)).mpr enough

/-- A multiple of a power of two is rounded to one. -/
theorem pow_dvd_units {halvings count : Nat}
    (finite : nearestPattern (count * Nat.pow 2 halvings) 1 < infinityPattern) :
    Nat.pow 2 halvings ∣ units (nearestPattern (count * Nat.pow 2 halvings) 1) := by
  obtain ⟨doublings, size⟩ := units_nearestPattern finite
  rw [size]
  rcases Nat.le_total halvings doublings with fewer | more
  · exact Dvd.dvd.mul_left (Nat.pow_dvd_pow 2 fewer) _
  · -- the steps are so small that nothing is lost
    obtain ⟨steps, split⟩ : Nat.pow 2 doublings ∣ count * Nat.pow 2 halvings :=
      Dvd.dvd.mul_left (Nat.pow_dvd_pow 2 more) _
    have kept : roundedQuotient (count * Nat.pow 2 halvings) (Nat.pow 2 doublings) = steps := by
      have positive : 0 < Nat.pow 2 doublings := Nat.two_pow_pos _
      rw [split, Nat.mul_comm]
      apply roundedQuotient_eq <;> omega
    rw [kept, Nat.mul_comm, ← split]
    exact Dvd.intro_left _ rfl

end CalcScript.Binary64
