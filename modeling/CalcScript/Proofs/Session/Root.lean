import CalcScript.Proofs.Evaluation.Order

/-!
# Scripts and the root

Scripts open no scopes, so a session has the root alone. What a name stands for is then decided in
one scope: a declaration adds a name that was missing, and an assignment changes the value of a name
that was there and is no constant. All other names keep what they stand for.
-/

set_option autoImplicit false

namespace CalcScript

namespace ScopeStack

/-- The root is the only open scope. -/
def RootAlone (stack : ScopeStack) : Prop :=
  ∃ scope, scope.parent = none ∧ stack = ⟨#[scope]⟩

/-- What a name stands for at the root. -/
def binding? (stack : ScopeStack) (name : String) : Option Binding :=
  (stack.locate root name).toOption.map (·.2)

section Single

variable {scope : Scope} {name : String}

theorem modify_root (change : Scope → Scope) :
    modify ⟨#[scope]⟩ root change = ⟨#[change scope]⟩ := rfl

theorem locate_root (orphan : scope.parent = none) :
    locate ⟨#[scope]⟩ root name =
      match scope.find? name with
      | some binding => .ok (root, binding)
      | none => .error (.unresolved name) := by
  have found : scopeAt ⟨#[scope]⟩ root = .ok scope := rfl
  rw [locate, locateWithin, found]
  simp only [orphan]
  cases scope.find? name <;> rfl

theorem binding?_root (orphan : scope.parent = none) :
    binding? ⟨#[scope]⟩ name = scope.find? name := by
  rw [binding?, locate_root orphan]
  cases scope.find? name <;> rfl

end Single

variable {stack next : ScopeStack} {name : String} {value : Value}

/-- The whole effect of a declaration that succeeds. -/
theorem RootAlone.declare (alone : stack.RootAlone) {constant : Bool}
    (declared : stack.declare root name value constant = .ok next) :
    next.RootAlone ∧ stack.binding? name = none ∧
      ∀ other, next.binding? other =
        if other = name then some ⟨value, constant⟩ else stack.binding? other := by
  obtain ⟨scope, orphan, rfl⟩ := alone
  obtain ⟨found, here, free, rfl⟩ := declare_eq_ok_iff.mp declared
  obtain rfl : scope = found := Except.ok.inj here
  have orphanAfter : (scope.bind name ⟨value, constant⟩).parent = none := by
    rw [Scope.parent_bind, orphan]
  rw [modify_root]
  refine ⟨⟨_, orphanAfter, rfl⟩, by rw [binding?_root orphan, free], fun other => ?_⟩
  rw [binding?_root orphanAfter, binding?_root orphan, Scope.find?_bind]

/-- The whole effect of an assignment that succeeds. -/
theorem RootAlone.assign (alone : stack.RootAlone)
    (assigned : stack.assign root name value = .ok next) :
    next.RootAlone ∧ ∃ old, stack.binding? name = some old ∧ old.constant = false ∧
      ∀ other, next.binding? other =
        if other = name then some (old.assigned value) else stack.binding? other := by
  obtain ⟨scope, orphan, rfl⟩ := alone
  obtain ⟨owner, old, located, changeable, rfl⟩ := assign_eq_ok_iff.mp assigned
  rw [locate_root orphan] at located
  cases found : scope.find? name with
  | none =>
      rw [found] at located
      cases located
  | some binding =>
      rw [found] at located
      cases located
      have orphanAfter : (scope.assign name value).parent = none := by
        rw [Scope.parent_assign, orphan]
      rw [modify_root]
      refine ⟨⟨_, orphanAfter, rfl⟩, old, by rw [binding?_root orphan, found], changeable,
        fun other => ?_⟩
      rw [binding?_root orphanAfter, binding?_root orphan, Scope.find?_assign]
      by_cases same : other = name
      · rw [if_pos same, if_pos same, same, found]
        rfl
      · rw [if_neg same, if_neg same]

/-! What a name stands for decides what becomes of a call. -/

section Answers

variable {old : Binding}

theorem RootAlone.locate_of_bound (alone : stack.RootAlone)
    (bound : stack.binding? name = some old) : stack.locate root name = .ok (root, old) := by
  obtain ⟨scope, orphan, rfl⟩ := alone
  rw [binding?_root orphan] at bound
  rw [locate_root orphan, bound]

theorem RootAlone.locate_of_missing (alone : stack.RootAlone)
    (missing : stack.binding? name = none) : stack.locate root name = .error (.unresolved name) := by
  obtain ⟨scope, orphan, rfl⟩ := alone
  rw [binding?_root orphan] at missing
  rw [locate_root orphan, missing]

theorem RootAlone.assign_of_missing (alone : stack.RootAlone) (value : Value)
    (missing : stack.binding? name = none) :
    stack.assign root name value = .error (.unresolved name) := by
  rw [ScopeStack.assign, alone.locate_of_missing missing]

theorem RootAlone.assign_of_constant (alone : stack.RootAlone) (value : Value)
    (bound : stack.binding? name = some old) (fixed : old.constant = true) :
    stack.assign root name value = .error (.constantReassignment name) := by
  rw [ScopeStack.assign, alone.locate_of_bound bound]
  exact if_pos fixed

theorem RootAlone.exists_assign (alone : stack.RootAlone) (value : Value)
    (bound : stack.binding? name = some old) (changeable : old.constant = false) :
    ∃ next, stack.assign root name value = .ok next :=
  ⟨_, assign_eq_ok_iff.mpr ⟨root, old, alone.locate_of_bound bound, changeable, rfl⟩⟩

theorem RootAlone.declare_of_bound (alone : stack.RootAlone) (value : Value) (constant : Bool)
    (bound : stack.binding? name = some old) :
    stack.declare root name value constant = .error (.duplicateDeclaration name) := by
  obtain ⟨scope, orphan, rfl⟩ := alone
  rw [binding?_root orphan] at bound
  exact if_pos (Option.isSome_of_eq_some bound)

theorem RootAlone.exists_declare (alone : stack.RootAlone) (value : Value) (constant : Bool)
    (missing : stack.binding? name = none) :
    ∃ next, stack.declare root name value constant = .ok next := by
  obtain ⟨scope, orphan, rfl⟩ := alone
  rw [binding?_root orphan] at missing
  exact ⟨_, declare_eq_ok_iff.mpr ⟨scope, rfl, missing, rfl⟩⟩

end Answers

end ScopeStack

end CalcScript
