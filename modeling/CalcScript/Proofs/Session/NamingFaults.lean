import CalcScript.Proofs.Session.Lookalikes
import CalcScript.Proofs.Session.Safety

/-!
# Faults of naming

Some faults are about names and some about values. Which names there are, and which of them are
constants, is all that the faults about names depend on: of two sessions that have the same names
neither fails at a name unless the other does. What values stand in the way of this is a run that
fails at values and so comes no further.
-/

set_option autoImplicit false

namespace CalcScript

namespace Fault

/-- Tells whether a fault is about the operands of an operator. -/
def concernsValues : Fault → Bool
  | divisionByZero | invalidOperands _ _ _ => true
  | _ => false

/-- Tells whether a fault is about a name, or about a target that is none. -/
def concernsNames : Fault → Bool
  | unresolved _ | constantReassignment _ | duplicateDeclaration _ | invalidTarget _ => true
  | _ => false

end Fault

/-- The root is the only scope of both stacks. They bind the same names, to constants in both or in
neither. -/
structure ScopeStack.SameNames (first second : ScopeStack) : Prop where
  alone : first.RootAlone
  aloneToo : second.RootAlone
  constants : ∀ name,
    (first.binding? name).map Binding.constant = (second.binding? name).map Binding.constant

theorem ScopeStack.SameNames.symm {first second : ScopeStack} (same : first.SameNames second) :
    second.SameNames first where
  alone := same.aloneToo
  aloneToo := same.alone
  constants := fun name => (same.constants name).symm

/-! ## Looking away from values -/

/-- The view of one who cannot tell values apart. -/
def unseen : Value → Unit := fun _ => ()

def everyName : String → Prop := fun _ => True

theorem ScopeStack.sameNames_iff {first second : ScopeStack} :
    first.SameNames second ↔ first.LooksLike unseen everyName second := by
  have shown : Binding.seen unseen = (·, ()) ∘ Binding.constant := rfl
  constructor
  · intro same
    refine ⟨same.alone, same.aloneToo, fun name _ => ?_⟩
    rw [shown, ← Option.map_map, same.constants name, Option.map_map]
  · intro looks
    refine ⟨looks.alone, looks.aloneToo, fun name => ?_⟩
    simpa [Function.comp_def, Binding.seen] using
      congrArg (Option.map Prod.fst) (looks.seen name trivial)

section Machines

variable {step : Step} {one two next nextToo : Machine} {fault : Fault}

/-- Without an operator there is nothing that values could decide. -/
theorem Step.sameOutcome_of_naming (naming : ∀ operator span, step ≠ .operate operator span)
    (looks : one.LooksLike unseen everyName two) :
    SameOutcome (Machine.LooksLike unseen everyName) (step.perform one) (step.perform two) :=
  Step.sameOutcome (fun _ _ => trivial) (fun operator span is => absurd is (naming operator span))
    looks

theorem Step.operate_looksLike {operator : Operator} {span : Span}
    (looks : one.LooksLike unseen everyName two)
    (done : (operate operator span).perform one = .ok next)
    (doneToo : (operate operator span).perform two = .ok nextToo) :
    next.LooksLike unseen everyName nextToo := by
  obtain ⟨operands, stack⟩ := one
  obtain ⟨operandsToo, stackToo⟩ := two
  obtain ⟨shown, scopes⟩ := looks
  obtain ⟨rfl, rfl⟩ | ⟨right, operands, rightToo, operandsToo, rfl, rfl, -, beyond⟩ :=
    nil_or_cons_of_view shown
  · cases done
    cases doneToo
    exact ⟨shown, scopes⟩
  obtain ⟨rfl, rfl⟩ | ⟨left, operands, leftToo, operandsToo, rfl, rfl, -, -⟩ :=
    nil_or_cons_of_view beyond
  · cases done
    cases doneToo
    exact ⟨shown, scopes⟩
  obtain ⟨value, -, rfl⟩ := exists_of_map_eq_ok done
  obtain ⟨valueToo, -, rfl⟩ := exists_of_map_eq_ok doneToo
  exact ⟨beyond, scopes⟩

theorem Step.looksLike_of_ok (looks : one.LooksLike unseen everyName two)
    (done : step.perform one = .ok next) (doneToo : step.perform two = .ok nextToo) :
    next.LooksLike unseen everyName nextToo := by
  cases step with
  | operate operator span => exact operate_looksLike looks done doneToo
  | supply | read | check | write | declare =>
      exact (sameOutcome_of_naming (by simp) looks).related done doneToo

/-- If a step fails on one machine and the fault is not about values, it fails on the other too. -/
theorem Step.failed_of_looksLike (looks : one.LooksLike unseen everyName two)
    (failed : step.perform one = .error fault ∨ step.perform two = .error fault) :
    fault.concernsValues = true ∨
      fault.concernsNames = true ∧ step.perform one = .error fault ∧
        step.perform two = .error fault := by
  have mayFail : step.MayFail fault :=
    failed.elim (Step.mayFail looks.scopes.alone) (Step.mayFail looks.scopes.aloneToo)
  cases mayFail with
  | division | operands => exact .inl rfl
  | read | target | missing | constant | duplicate =>
      exact .inr ⟨rfl, (sameOutcome_of_naming (by simp) looks).failed failed⟩

end Machines

/-! ## Where runs end -/

namespace Session

/-- The run of a program performs some steps and comes to the one behind them. -/
def ComesTo (session : Session) (program : Program) (done : List Step) (step : Step)
    (reached : Machine) : Prop :=
  (∃ later, program.steps = done ++ step :: later) ∧
    Performs done ⟨[.null], session.stack⟩ reached

/-- The run of a program comes to a step and fails there. -/
def BreaksAt (session : Session) (program : Program) (done : List Step) (step : Step)
    (fault : Fault) : Prop :=
  ∃ reached, session.ComesTo program done step reached ∧ step.perform reached = .error fault

/-- No fault about values ends the run of a program. -/
def SparedByValues (session : Session) (program : Program) : Prop :=
  ∀ error, (session.runProgram program).1 = .error error → error.fault.concernsValues = false

/-- Where the run of another session fails at values the run of this one comes too, unless it fails
at values before. -/
def ComesAsFarAs (session other : Session) (program : Program) : Prop :=
  ∀ error, (other.runProgram program).1 = .error error → error.fault.concernsValues = true →
    ∃ done step, other.BreaksAt program done step error.fault ∧ step.place = error.span ∧
      ((∃ reached, session.ComesTo program done step reached) ∨
        ∃ before failing rest fault, done = before ++ failing :: rest ∧
          session.BreaksAt program before failing fault ∧ fault.concernsValues = true ∧
          (session.runProgram program).1 = .error ⟨fault, failing.place⟩)

section Runs

variable {session first second : Session} {program : Program} {done : List Step} {step : Step}
  {fault : Fault}

theorem BreaksAt.runProgram (breaks : session.BreaksAt program done step fault) :
    (session.runProgram program).1 = .error ⟨fault, step.place⟩ := by
  obtain ⟨reached, ⟨⟨later, split⟩, performs⟩, failed⟩ := breaks
  rw [runProgram_of_failed split performs failed]

theorem SparedByValues.not_concernsValues (spared : session.SparedByValues program)
    (breaks : session.BreaksAt program done step fault) : ¬ fault.concernsValues = true := by
  intro about
  exact Bool.noConfusion (about.symm.trans (spared _ breaks.runProgram))

theorem goTogether_of_sameNames (same : first.stack.SameNames second.stack) (steps : List Step) :
    GoTogether (Machine.LooksLike unseen everyName) steps ⟨[.null], first.stack⟩
      ⟨[.null], second.stack⟩ :=
  goTogether (fun _ _ _ _ _ _ looks performed performedToo =>
    Step.looksLike_of_ok looks performed performedToo) ⟨rfl, ScopeStack.sameNames_iff.mp same⟩

theorem comesAsFarAs_of_sameNames (same : first.stack.SameNames second.stack) :
    second.ComesAsFarAs first program := by
  intro error failed concerns
  have ran : first.runProgram program = (.error error, (first.runProgram program).2) :=
    Prod.ext failed rfl
  obtain ⟨done, step, later, reached, split, performs, refused, place, -⟩ :=
    performAll_eq_error_iff.mp (runProgram_eq_error_iff.mp ran)
  refine ⟨done, step, ⟨reached, ⟨⟨later, split⟩, performs⟩, refused⟩, place, ?_⟩
  cases goTogether_of_sameNames same done with
  | through _ performsToo _ => exact .inl ⟨_, ⟨later, split⟩, performsToo⟩
  | @parted before rest failing _ _ fault within comes comesToo looks fails =>
      subst within
      -- The first run comes past this step, so it is the second one that fails here.
      have passed := performs.not_failed comes fault
      have splitToo : program.steps = before ++ failing :: (rest ++ step :: later) := by
        simpa using split
      have breaks : second.BreaksAt program before failing fault :=
        ⟨_, ⟨⟨_, splitToo⟩, comesToo⟩, fails.resolve_left passed⟩
      obtain about | ⟨-, failsHere, -⟩ := Step.failed_of_looksLike looks fails
      · exact .inr ⟨before, failing, rest, fault, rfl, breaks, about, breaks.runProgram⟩
      · exact absurd failsHere passed

end Runs

/-- Values decide no fault about names. If neither of two sessions with the same names fails at
values, both come to the end of a program or both fail at the same step for the same fault, which is
about names, and they have the same names again. If one of them fails at values, the other comes to
the same step or fails at values before. -/
theorem runProgram_of_sameNames (program : Program) {first second : Session}
    (same : first.stack.SameNames second.stack) :
    (first.SparedByValues program → second.SparedByValues program →
      (first.runProgram program).2.stack.SameNames (second.runProgram program).2.stack ∧
        ((∃ value valueToo, (first.runProgram program).1 = .ok value ∧
            (second.runProgram program).1 = .ok valueToo) ∨
          ∃ done step fault, fault.concernsNames = true ∧
            first.BreaksAt program done step fault ∧ second.BreaksAt program done step fault ∧
            (first.runProgram program).1 = .error ⟨fault, step.place⟩ ∧
            (second.runProgram program).1 = .error ⟨fault, step.place⟩)) ∧
      second.ComesAsFarAs first program ∧ first.ComesAsFarAs second program := by
  refine ⟨fun spared sparedToo => ?_, comesAsFarAs_of_sameNames same,
    comesAsFarAs_of_sameNames same.symm⟩
  cases goTogether_of_sameNames same program.steps with
  | through performs performsToo looks =>
      rw [runProgram_of_performs performs, runProgram_of_performs performsToo]
      exact ⟨ScopeStack.sameNames_iff.mpr looks.scopes, .inl ⟨_, _, rfl, rfl⟩⟩
  | @parted done later step _ _ fault split performs performsToo looks failed =>
      have unspoiled : ¬ fault.concernsValues = true := failed.elim
        (fun fails => spared.not_concernsValues ⟨_, ⟨⟨later, split⟩, performs⟩, fails⟩)
        fun fails => sparedToo.not_concernsValues ⟨_, ⟨⟨later, split⟩, performsToo⟩, fails⟩
      obtain ⟨naming, fails, failsToo⟩ :=
        (Step.failed_of_looksLike looks failed).resolve_left unspoiled
      have breaks : first.BreaksAt program done step fault :=
        ⟨_, ⟨⟨later, split⟩, performs⟩, fails⟩
      have breaksToo : second.BreaksAt program done step fault :=
        ⟨_, ⟨⟨later, split⟩, performsToo⟩, failsToo⟩
      rw [runProgram_of_failed split performs fails,
        runProgram_of_failed split performsToo failsToo]
      exact ⟨ScopeStack.sameNames_iff.mpr looks.scopes,
        .inr ⟨done, step, fault, naming, breaks, breaksToo, rfl, rfl⟩⟩

/-- A name that is declared with different values, and an assignment that fails because no value can
be read for it. -/
theorem runProgram_of_sameNames_unresolved :
    ∃ (program : Program) (first second : Session),
      program = ⟨[⟨.declaration true "z" .unplaced (some (.name "x" .unplaced)), .unplaced⟩,
        ⟨.expression (.assignment (.name "x" .unplaced) (.name "y" .unplaced) .unplaced),
          .unplaced⟩]⟩ ∧
      first.stack.SameNames second.stack ∧
      (first.runProgram program).2.stack.binding? "z" = some ⟨.null, true⟩ ∧
      (second.runProgram program).2.stack.binding? "z" = some ⟨.boolean true, true⟩ ∧
      (first.runProgram program).2.stack.SameNames (second.runProgram program).2.stack ∧
      ∃ done step, first.BreaksAt program done step (.unresolved "y") ∧
        second.BreaksAt program done step (.unresolved "y") := by
  let first : Session := ⟨⟨#[(Scope.empty none).bind "x" ⟨.null, false⟩]⟩⟩
  let second : Session := ⟨⟨#[(Scope.empty none).bind "x" ⟨.boolean true, false⟩]⟩⟩
  let program : Program := ⟨[⟨.declaration true "z" .unplaced (some (.name "x" .unplaced)),
    .unplaced⟩, ⟨.expression (.assignment (.name "x" .unplaced) (.name "y" .unplaced) .unplaced),
      .unplaced⟩]⟩
  have same : first.stack.SameNames second.stack := by
    refine ⟨⟨_, rfl, rfl⟩, ⟨_, rfl, rfl⟩, fun name => ?_⟩
    rw [ScopeStack.binding?_root rfl, ScopeStack.binding?_root rfl, Scope.find?_bind,
      Scope.find?_bind]
    split <;> rfl
  have ends : (first.runProgram program).1 = .error ⟨.unresolved "y", .unplaced⟩ := rfl
  have endsToo : (second.runProgram program).1 = .error ⟨.unresolved "y", .unplaced⟩ := rfl
  have spared : first.SparedByValues program := by
    intro error failed
    cases ends.symm.trans failed
    rfl
  have sparedToo : second.SparedByValues program := by
    intro error failed
    cases endsToo.symm.trans failed
    rfl
  obtain ⟨sameAfter, outcome⟩ := (runProgram_of_sameNames program same).1 spared sparedToo
  refine ⟨program, first, second, rfl, same, by decide, by decide, sameAfter, ?_⟩
  obtain ⟨value, -, done, -⟩ | ⟨done, step, fault, -, breaks, breaksToo, failed, -⟩ := outcome
  · cases ends.symm.trans done
  · obtain ⟨rfl, -⟩ := RuntimeError.mk.inj (Except.error.inj (ends.symm.trans failed))
    exact ⟨done, step, breaks, breaksToo⟩

end Session

end CalcScript
