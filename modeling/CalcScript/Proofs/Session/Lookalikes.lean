import CalcScript.Proofs.Evaluation.Lockstep
import CalcScript.Proofs.Outcomes
import CalcScript.Proofs.Session.Root

/-!
# Scopes that look alike

To one who knows some names and sees of values only a view, two stacks may look alike: each of these
names is a constant in both, or no constant in both, or missing in both, and its values show the
same view. Whatever is done with such a name on both stacks has outcomes of the same kind and leaves
stacks that look alike again. So a step that works on such names does alike on both, as long as the
view shows enough of the operands to tell what becomes of an operator.
-/

set_option autoImplicit false

namespace CalcScript

variable {α : Type} {view : Value → α} {names : String → Prop}

/-- What is seen of a binding. -/
def Binding.seen (view : Value → α) (binding : Binding) : Bool × α :=
  (binding.constant, view binding.value)

namespace ScopeStack

structure LooksLike (view : Value → α) (names : String → Prop) (first second : ScopeStack) :
    Prop where
  alone : first.RootAlone
  aloneToo : second.RootAlone
  seen : ∀ name, names name →
    (first.binding? name).map (Binding.seen view) = (second.binding? name).map (Binding.seen view)

namespace LooksLike

variable {first second : ScopeStack} {name : String} {value other : Value}

theorem missing_or_bound (looks : first.LooksLike view names second) (known : names name) :
    (first.binding? name = none ∧ second.binding? name = none) ∨
      ∃ old oldToo, first.binding? name = some old ∧ second.binding? name = some oldToo ∧
        old.constant = oldToo.constant ∧ view old.value = view oldToo.value := by
  have seen := looks.seen name known
  cases bound : first.binding? name with
  | none =>
      rw [bound] at seen
      exact .inl ⟨rfl, Option.map_eq_none_iff.mp seen.symm⟩
  | some old =>
      rw [bound] at seen
      obtain ⟨oldToo, boundToo, same⟩ := Option.map_eq_some_iff.mp seen.symm
      obtain ⟨constant, shown⟩ := Prod.mk.inj same
      exact .inr ⟨old, oldToo, rfl, boundToo, constant.symm, shown.symm⟩

/-- Stacks look alike again when a name is bound anew in both, to bindings that look alike. -/
theorem rebound (looks : first.LooksLike view names second) {next nextToo : ScopeStack}
    {new newToo : Binding} (alone : next.RootAlone) (aloneToo : nextToo.RootAlone)
    (bindings : ∀ other,
      next.binding? other = if other = name then some new else first.binding? other)
    (bindingsToo : ∀ other,
      nextToo.binding? other = if other = name then some newToo else second.binding? other)
    (same : new.seen view = newToo.seen view) : next.LooksLike view names nextToo where
  alone := alone
  aloneToo := aloneToo
  seen := by
    intro other known
    rw [bindings, bindingsToo]
    split
    · exact congrArg some same
    · exact looks.seen other known

theorem read (looks : first.LooksLike view names second) (known : names name) :
    SameOutcome (view · = view ·) (first.read root name) (second.read root name) := by
  rw [ScopeStack.read, ScopeStack.read]
  obtain ⟨missing, missingToo⟩ | ⟨old, oldToo, bound, boundToo, -, shown⟩ :=
    looks.missing_or_bound known
  · rw [looks.alone.locate_of_missing missing, looks.aloneToo.locate_of_missing missingToo]
    exact .error
  · rw [looks.alone.locate_of_bound bound, looks.aloneToo.locate_of_bound boundToo]
    exact .ok shown

theorem assign (looks : first.LooksLike view names second) (known : names name)
    (same : view value = view other) :
    SameOutcome (LooksLike view names) (first.assign root name value)
      (second.assign root name other) := by
  obtain ⟨missing, missingToo⟩ | ⟨old, oldToo, bound, boundToo, constant, -⟩ :=
    looks.missing_or_bound known
  · rw [looks.alone.assign_of_missing value missing,
      looks.aloneToo.assign_of_missing other missingToo]
    exact .error
  · cases fixed : old.constant with
    | true =>
        rw [looks.alone.assign_of_constant value bound fixed,
          looks.aloneToo.assign_of_constant other boundToo (constant.symm.trans fixed)]
        exact .error
    | false =>
        obtain ⟨next, assigned⟩ := looks.alone.exists_assign value bound fixed
        obtain ⟨nextToo, assignedToo⟩ :=
          looks.aloneToo.exists_assign other boundToo (constant.symm.trans fixed)
        obtain ⟨alone, held, heldBound, -, bindings⟩ := looks.alone.assign assigned
        obtain ⟨aloneToo, heldToo, heldBoundToo, -, bindingsToo⟩ :=
          looks.aloneToo.assign assignedToo
        cases heldBound.symm.trans bound
        cases heldBoundToo.symm.trans boundToo
        rw [assigned, assignedToo]
        exact .ok (looks.rebound alone aloneToo bindings bindingsToo (Prod.ext constant same))

theorem declare (looks : first.LooksLike view names second) (known : names name)
    (same : view value = view other) (constant : Bool) :
    SameOutcome (LooksLike view names) (first.declare root name value constant)
      (second.declare root name other constant) := by
  obtain ⟨missing, missingToo⟩ | ⟨old, oldToo, bound, boundToo, -⟩ := looks.missing_or_bound known
  · obtain ⟨next, declared⟩ := looks.alone.exists_declare value constant missing
    obtain ⟨nextToo, declaredToo⟩ := looks.aloneToo.exists_declare other constant missingToo
    obtain ⟨alone, -, bindings⟩ := looks.alone.declare declared
    obtain ⟨aloneToo, -, bindingsToo⟩ := looks.aloneToo.declare declaredToo
    rw [declared, declaredToo]
    exact .ok (looks.rebound alone aloneToo bindings bindingsToo (Prod.ext rfl same))
  · rw [looks.alone.declare_of_bound value constant bound,
      looks.aloneToo.declare_of_bound other constant boundToo]
    exact .error

end LooksLike

end ScopeStack

/-! ## Steps -/

/-- The name that a step works on. -/
def Step.name? : Step → Option String
  | read name _ | write name _ | declare _ name _ => some name
  | supply _ | operate _ _ | check _ => none

structure Machine.LooksLike (view : Value → α) (names : String → Prop) (one two : Machine) :
    Prop where
  operands : one.operands.map view = two.operands.map view
  scopes : one.stack.LooksLike view names two.stack

/-- An operator comes to outcomes of the same kind on operands that show the same view. -/
def Operator.Respects (view : Value → α) (operator : Operator) : Prop :=
  ∀ {left right leftToo rightToo : Value}, view left = view leftToo → view right = view rightToo →
    SameOutcome (view · = view ·) (operator.apply left right) (operator.apply leftToo rightToo)

theorem nil_or_cons_of_view {operands operandsToo : List Value}
    (shown : operands.map view = operandsToo.map view) :
    (operands = [] ∧ operandsToo = []) ∨
      ∃ value rest other restToo, operands = value :: rest ∧ operandsToo = other :: restToo ∧
        view value = view other ∧ rest.map view = restToo.map view := by
  cases operands with
  | nil => exact .inl ⟨rfl, List.map_eq_nil_iff.mp shown.symm⟩
  | cons value rest =>
      obtain ⟨other, restToo, split, same, shownRest⟩ := List.map_eq_cons_iff.mp shown.symm
      exact .inr ⟨value, rest, other, restToo, rfl, split, same.symm, shownRest.symm⟩

theorem Step.sameOutcome {step : Step} (known : ∀ name ∈ step.name?, names name)
    (respected : ∀ operator span, step = .operate operator span → operator.Respects view)
    {one two : Machine} (looks : one.LooksLike view names two) :
    SameOutcome (Machine.LooksLike view names) (step.perform one) (step.perform two) := by
  obtain ⟨operands, stack⟩ := one
  obtain ⟨operandsToo, stackToo⟩ := two
  obtain ⟨shown, scopes⟩ := looks
  cases step with
  | supply value => exact .ok ⟨congrArg (view value :: ·) shown, scopes⟩
  | read name span =>
      exact (scopes.read (known name rfl)).map fun same =>
        ⟨List.cons_eq_cons.mpr ⟨same, shown⟩, scopes⟩
  | check target =>
      simp only [Step.perform]
      split
      · exact .ok ⟨shown, scopes⟩
      · exact .error
  | operate operator span =>
      obtain ⟨rfl, rfl⟩ | ⟨right, operands, rightToo, operandsToo, rfl, rfl, sameRight, beyond⟩ :=
        nil_or_cons_of_view shown
      · exact .ok ⟨shown, scopes⟩
      obtain ⟨rfl, rfl⟩ | ⟨left, operands, leftToo, operandsToo, rfl, rfl, sameLeft, rest⟩ :=
        nil_or_cons_of_view beyond
      · exact .ok ⟨shown, scopes⟩
      exact (respected operator span rfl sameLeft sameRight).map fun same =>
        ⟨List.cons_eq_cons.mpr ⟨same, rest⟩, scopes⟩
  | write name span =>
      obtain ⟨rfl, rfl⟩ | ⟨value, operands, other, operandsToo, rfl, rfl, same, -⟩ :=
        nil_or_cons_of_view shown
      · exact .ok ⟨shown, scopes⟩
      · exact (scopes.assign (known name rfl) same).map fun scopes => ⟨shown, scopes⟩
  | declare constant name span =>
      obtain ⟨rfl, rfl⟩ | ⟨value, operands, other, operandsToo, rfl, rfl, same, -⟩ :=
        nil_or_cons_of_view shown
      · exact .ok ⟨shown, scopes⟩
      · exact (scopes.declare (known name rfl) same constant).map fun scopes => ⟨shown, scopes⟩

end CalcScript
