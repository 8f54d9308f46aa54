import CalcScript.Proofs.Evaluation.Steps

/-!
# Two runs of the same steps

Two machines that perform the same steps go together for as long as both succeed. If they do not
come to the end together, they come to a step that fails on one of them at least.
-/

set_option autoImplicit false

namespace CalcScript

section Runs

variable {steps first second : List Step} {machine last : Machine}

theorem Performs.unique (performs : Performs steps machine last) {other : Machine}
    (performsToo : Performs steps machine other) : last = other := by
  induction performs with
  | nil =>
      cases performsToo
      rfl
  | cons performed _ ih =>
      cases performsToo with
      | cons performedToo later =>
          cases performed.symm.trans performedToo
          exact ih later

theorem Performs.exists_middle (performs : Performs (first ++ second) machine last) :
    ∃ middle, Performs first machine middle ∧ Performs second middle last := by
  induction first generalizing machine with
  | nil => exact ⟨machine, .nil, performs⟩
  | cons step later ih =>
      cases performs with
      | cons performed rest =>
          obtain ⟨middle, performsLater, performsSecond⟩ := ih rest
          exact ⟨middle, .cons performed performsLater, performsSecond⟩

/-- Steps that all succeed do not fail at one of them. -/
theorem Performs.not_failed {later : List Step} {step : Step}
    (performs : Performs (first ++ step :: later) machine last) {reached : Machine}
    (comes : Performs first machine reached) (fault : Fault) :
    step.perform reached ≠ .error fault := by
  intro failed
  obtain ⟨middle, comesToo, rest⟩ := performs.exists_middle
  cases comes.unique comesToo
  cases rest with
  | cons performed => cases performed.symm.trans failed

end Runs

/-- How two runs of the same steps go: together to the end, or to a step that fails. -/
inductive GoTogether (Related : Machine → Machine → Prop) (steps : List Step)
    (one two : Machine) : Prop where
  | through {last lastToo : Machine} :
      Performs steps one last → Performs steps two lastToo → Related last lastToo →
      GoTogether Related steps one two
  | parted {done later : List Step} {step : Step} {reached reachedToo : Machine} {fault : Fault} :
      steps = done ++ step :: later → Performs done one reached → Performs done two reachedToo →
      Related reached reachedToo →
      step.perform reached = .error fault ∨ step.perform reachedToo = .error fault →
      GoTogether Related steps one two

theorem goTogether {Related : Machine → Machine → Prop} {steps : List Step} {one two : Machine}
    (kept : ∀ step ∈ steps, ∀ {one two next nextToo}, Related one two →
      step.perform one = .ok next → step.perform two = .ok nextToo → Related next nextToo)
    (related : Related one two) : GoTogether Related steps one two := by
  induction steps generalizing one two with
  | nil => exact .through .nil .nil related
  | cons step later ih =>
      obtain ⟨keptHere, keptLater⟩ := List.forall_mem_cons.mp kept
      have start : step :: later = [] ++ step :: later := rfl
      cases performed : step.perform one with
      | error fault => exact .parted start .nil .nil related (.inl performed)
      | ok next =>
          cases performedToo : step.perform two with
          | error fault => exact .parted start .nil .nil related (.inr performedToo)
          | ok nextToo =>
              cases ih keptLater (keptHere related performed performedToo) with
              | through first second relatedLast =>
                  exact .through (.cons performed first) (.cons performedToo second) relatedLast
              | parted split first second relatedReached failed =>
                  exact .parted (congrArg (step :: ·) split) (.cons performed first)
                    (.cons performedToo second) relatedReached failed

end CalcScript
