import CalcScript.Scope.Stack

/-!
# Slots of a scope stack

A handle is open while its slot is taken. What a handle leads to is decided by its slot alone, so an
opened scope, a closed scope and a changed scope each alter the answers for one slot and leave all
others as they were. Every operation that follows a handle refuses one that is not open; only the
opening of a scope does not look at the handle that it is given.
-/

set_option autoImplicit false

namespace CalcScript

namespace ScopeStack

def Open (stack : ScopeStack) (scope : ScopeId) : Prop := scope.slot < stack.scopes.size

instance (stack : ScopeStack) (scope : ScopeId) : Decidable (stack.Open scope) :=
  inferInstanceAs (Decidable (_ < _))

/-- What a scope itself binds a name to. -/
def held? (stack : ScopeStack) (scope : ScopeId) (name : String) : Option Binding :=
  (stack.scopeAt scope).toOption.bind (·.find? name)

variable {stack next : ScopeStack} {scope other opened : ScopeId} {name : String}
variable {value : Value} {constant : Bool} {found : Scope}

section Following

theorem scopeAt_eq_ok_iff :
    stack.scopeAt scope = .ok found ↔ stack.scopes[scope.slot]? = some found := by
  rw [scopeAt]
  cases stack.scopes[scope.slot]? <;> simp

theorem Open.exists_scopeAt (present : stack.Open scope) :
    ∃ found, stack.scopeAt scope = .ok found :=
  ⟨_, scopeAt_eq_ok_iff.mpr (Array.getElem?_eq_getElem present)⟩

theorem held?_of_scopeAt (here : stack.scopeAt scope = .ok found) :
    stack.held? scope name = found.find? name := by
  rw [held?, here]
  rfl

theorem scopeAt_of_not_open (absent : ¬ stack.Open scope) :
    stack.scopeAt scope = .error (.closedScope scope) := by
  rw [scopeAt, Array.getElem?_eq_none (Nat.le_of_not_lt absent)]

theorem open_of_parent {around : Option ScopeId} (known : stack.parent scope = .ok around) :
    stack.Open scope := by
  by_cases taken : stack.Open scope
  · exact taken
  · rw [parent, scopeAt_of_not_open taken] at known
    cases known

theorem open_of_held? {binding : Binding} (held : stack.held? scope name = some binding) :
    stack.Open scope := by
  by_cases taken : stack.Open scope
  · exact taken
  · rw [held?, scopeAt_of_not_open taken] at held
    cases held

theorem held?_of_not_open (absent : ¬ stack.Open scope) : stack.held? scope name = none := by
  rw [held?, scopeAt_of_not_open absent]
  rfl

theorem ext_scopeAt (size : stack.scopes.size = next.scopes.size)
    (same : ∀ scope, stack.Open scope → stack.scopeAt scope = next.scopeAt scope) :
    stack = next := by
  obtain ⟨scopes⟩ := stack
  obtain ⟨others⟩ := next
  refine congrArg ScopeStack.mk (Array.ext size fun slot lower lowerToo => ?_)
  have here := same ⟨slot⟩ lower
  rw [scopeAt_eq_ok_iff.mpr (Array.getElem?_eq_getElem lower),
    scopeAt_eq_ok_iff.mpr (Array.getElem?_eq_getElem lowerToo)] at here
  exact Except.ok.inj here

theorem locate_of_scopeAt {binding : Binding} (here : stack.scopeAt scope = .ok found)
    (bound : found.find? name = some binding) : stack.locate scope name = .ok (scope, binding) := by
  rw [locate, locateWithin, here]
  simp only [bound]

/-- Everything that follows the handle refuses it. -/
structure Refuses (stack : ScopeStack) (scope : ScopeId) : Prop where
  parent : stack.parent scope = .error (.closedScope scope)
  owner : ∀ name, stack.owner scope name = .error (.closedScope scope)
  read : ∀ name, stack.read scope name = .error (.closedScope scope)
  isConstant : ∀ name, stack.isConstant scope name = .error (.closedScope scope)
  declare : ∀ name value constant,
    stack.declare scope name value constant = .error (.closedScope scope)
  assign : ∀ name value, stack.assign scope name value = .error (.closedScope scope)

theorem refuses_of_not_open (absent : ¬ stack.Open scope) : stack.Refuses scope := by
  have missing := scopeAt_of_not_open absent
  have nowhere : ∀ name, stack.locate scope name = .error (.closedScope scope) := by
    intro name
    rw [locate, locateWithin, missing]
  constructor
  · rw [parent, missing]
    rfl
  · intro name
    rw [owner, nowhere]
    rfl
  · intro name
    rw [read, nowhere]
    rfl
  · intro name
    rw [isConstant, nowhere]
  · intro name value constant
    rw [declare, missing]
  · intro name value
    rw [assign, nowhere]

end Following

section Opening

theorem open_push (around : ScopeId) :
    (stack.push around).2.Open scope ↔ stack.Open scope ∨ scope = (stack.push around).1 := by
  obtain ⟨slot⟩ := scope
  simp only [Open, push, Array.size_push, ScopeId.mk.injEq]
  omega

theorem not_open_pushed (around : ScopeId) : ¬ stack.Open (stack.push around).1 :=
  Nat.lt_irrefl _

theorem scopeAt_push (around : ScopeId) :
    (stack.push around).2.scopeAt scope =
      if scope = (stack.push around).1 then .ok (Scope.empty (some around))
      else stack.scopeAt scope := by
  obtain ⟨slot⟩ := scope
  by_cases new : slot = stack.scopes.size <;> simp [scopeAt, push, Array.getElem?_push, new]

theorem parent_push (around : ScopeId) :
    (stack.push around).2.parent scope =
      if scope = (stack.push around).1 then .ok (some around) else stack.parent scope := by
  rw [parent, scopeAt_push]
  split <;> rfl

/-- A scope binds nothing when it is opened, whatever its slot was used for before. -/
theorem held?_push (around : ScopeId) :
    (stack.push around).2.held? scope name = stack.held? scope name := by
  rw [held?, scopeAt_push]
  split
  case isTrue new =>
    rw [new, held?_of_not_open (not_open_pushed around)]
    rfl
  case isFalse => rfl

end Opening

section Closing

/-- The scope in the highest slot. -/
def top (stack : ScopeStack) : ScopeId := ⟨stack.scopes.size - 1⟩

theorem pop_of_single (single : stack.scopes.size ≤ 1) : stack.pop = (none, stack) := if_pos single

variable (several : 1 < stack.scopes.size)

include several in
theorem open_pop : stack.pop.2.Open scope ↔ stack.Open scope ∧ scope ≠ stack.top := by
  obtain ⟨slot⟩ := scope
  simp only [pop, Nat.not_le.mpr several, if_false, Open, Array.size_pop, top, ne_eq,
    ScopeId.mk.injEq]
  omega

include several in
theorem scopeAt_pop (kept : scope ≠ stack.top) : stack.pop.2.scopeAt scope = stack.scopeAt scope := by
  obtain ⟨slot⟩ := scope
  simp only [top, ne_eq, ScopeId.mk.injEq] at kept
  simp only [pop, Nat.not_le.mpr several, if_false, scopeAt, Array.getElem?_pop]
  by_cases below : slot < stack.scopes.size - 1
  · rw [if_pos below]
  · rw [if_neg below, Array.getElem?_eq_none (by omega)]

include several in
theorem pop_fst : stack.parent stack.top = .ok stack.pop.1 := by
  have last : stack.scopes.back? = some stack.scopes[stack.scopes.size - 1] := by
    rw [Array.back?_eq_getElem?, Array.getElem?_eq_getElem]
  have here : stack.scopeAt stack.top = .ok stack.scopes[stack.scopes.size - 1] :=
    scopeAt_eq_ok_iff.mpr (Array.getElem?_eq_getElem _)
  simp [parent, here, pop, Nat.not_le.mpr several, last, Except.map]

end Closing

section Changing

variable {change : Scope → Scope}

theorem scopeAt_modify :
    (stack.modify opened change).scopeAt scope =
      if scope = opened then (stack.scopeAt scope).map change else stack.scopeAt scope := by
  rw [scopeAt, modify, Array.getElem?_modify]
  by_cases same : scope = opened
  · rw [if_pos same, if_pos (congrArg ScopeId.slot same.symm), scopeAt]
    cases stack.scopes[scope.slot]? <;> rfl
  · have apart : opened.slot ≠ scope.slot := fun equal => same (congrArg ScopeId.mk equal.symm)
    rw [if_neg same, if_neg apart, scopeAt]

theorem modify_of_not_open (absent : ¬ stack.Open opened) : stack.modify opened change = stack := by
  refine ext_scopeAt Array.size_modify fun scope present => ?_
  rw [scopeAt_modify]
  split
  case isTrue same =>
    rw [same, scopeAt_of_not_open absent]
    rfl
  case isFalse => rfl

theorem parent_modify (keeps : ∀ found, (change found).parent = found.parent) (scope : ScopeId) :
    (stack.modify opened change).parent scope = stack.parent scope := by
  rw [parent, scopeAt_modify, parent]
  split
  case isTrue =>
    cases stack.scopeAt scope with
    | ok found => exact congrArg Except.ok (keeps found)
    | error => rfl
  case isFalse => rfl

/-- The second stack differs from the first in what one scope binds one name to. -/
structure Rebound (before after : ScopeStack) (owner : ScopeId) (name : String)
    (binding : Binding) : Prop where
  size : after.scopes.size = before.scopes.size
  parent : ∀ scope, after.parent scope = before.parent scope
  held : ∀ scope other, after.held? scope other =
    if scope = owner ∧ other = name then some binding else before.held? scope other

variable {owner : ScopeId} {old binding : Binding}

theorem Rebound.open_iff (rebound : stack.Rebound next owner name binding) :
    next.Open scope ↔ stack.Open scope := by
  rw [Open, Open, rebound.size]

/-- A change of one scope that keeps its parent and rebinds one name. -/
theorem rebound_modify (present : stack.scopeAt owner = .ok found)
    (kept : (change found).parent = found.parent)
    (finds : ∀ other, (change found).find? other =
      if other = name then some binding else found.find? other) :
    stack.Rebound (stack.modify owner change) owner name binding where
  size := Array.size_modify
  parent := by
    intro scope
    rw [parent, scopeAt_modify]
    split
    case isTrue same => rw [parent, same, present, Except.map, Except.map, Except.map, kept]
    case isFalse => rfl
  held := by
    intro scope other
    by_cases same : scope = owner
    · subst same
      have changed : (stack.modify scope change).scopeAt scope = .ok (change found) := by
        rw [scopeAt_modify, if_pos rfl, present]
        rfl
      rw [held?_of_scopeAt changed, held?_of_scopeAt present, finds]
      simp only [true_and]
    · rw [held?, scopeAt_modify, if_neg same, if_neg (fun both => same both.1), held?]

/-- A declaration fails exactly when the scope itself holds the name. -/
theorem declare_of_open (present : stack.Open scope) :
    stack.declare scope name value constant =
      if (stack.held? scope name).isSome then .error (.duplicateDeclaration name)
      else .ok (stack.modify scope (·.bind name ⟨value, constant⟩)) := by
  obtain ⟨found, here⟩ := present.exists_scopeAt
  rw [declare, held?_of_scopeAt here, here]

theorem rebound_of_declare (declared : stack.declare scope name value constant = .ok next) :
    stack.held? scope name = none ∧ stack.Rebound next scope name ⟨value, constant⟩ := by
  obtain ⟨found, here, free, rfl⟩ := declare_eq_ok_iff.mp declared
  rw [held?_of_scopeAt here]
  exact ⟨free, rebound_modify here rfl fun other => Scope.find?_bind found name other _⟩

/-- Where a name is found it is bound. -/
theorem held?_of_locateWithin {steps : Nat}
    (located : stack.locateWithin name steps scope = .ok (owner, old)) :
    stack.held? owner name = some old := by
  induction steps generalizing scope with
  | zero => cases located
  | succ steps ih =>
      rw [locateWithin] at located
      cases here : stack.scopeAt scope with
      | error fault =>
          rw [here] at located
          cases located
      | ok found =>
          rw [here] at located
          dsimp only at located
          split at located
          case h_1 binding bound =>
            cases located
            rw [held?_of_scopeAt here]
            exact bound
          case h_2 => exact ih located
          case h_3 => cases located

theorem rebound_of_assign (assigned : stack.assign scope name value = .ok next) :
    ∃ owner old, stack.locate scope name = .ok (owner, old) ∧ old.constant = false ∧
      stack.held? owner name = some old ∧
      stack.Rebound next owner name (old.assigned value) := by
  obtain ⟨owner, old, located, changeable, rfl⟩ := assign_eq_ok_iff.mp assigned
  have held := held?_of_locateWithin located
  obtain ⟨found, here⟩ := (open_of_held? held).exists_scopeAt
  have bound := (held?_of_scopeAt here).symm.trans held
  refine ⟨owner, old, located, changeable, held, rebound_modify here rfl fun other => ?_⟩
  rw [Scope.find?_assign]
  split
  case isTrue same =>
    rw [same, bound]
    rfl
  case isFalse => rfl

end Changing

end ScopeStack

end CalcScript
