import CalcScript.Proofs.Scopes.Slots

/-!
# Chains of scopes

The chain of a scope leads from it over its parents to a scope that has none. A search for a name
goes along the chain, so it finds the nearest scope that binds the name.

Every scope has a chain when all parents lie in lower slots. The slots then fall along each chain,
so no scope comes twice and the root is the last. Opening a scope keeps this order if and only if
the scope around it is open.
-/

set_option autoImplicit false

namespace CalcScript

namespace ScopeStack

inductive Chain (stack : ScopeStack) : ScopeId → List ScopeId → Prop where
  | last {scope} : stack.parent scope = .ok none → Chain stack scope [scope]
  | link {scope around passed} :
      stack.parent scope = .ok (some around) → Chain stack around passed →
      Chain stack scope (scope :: passed)

/-- The first of some scopes that binds a name, and what it binds it to. -/
def nearest? (stack : ScopeStack) (passed : List ScopeId) (name : String) :
    Option (ScopeId × Binding) :=
  passed.findSome? fun scope => (stack.held? scope name).map (scope, ·)

/-- The answer to a question about a name, which may have no meaning. -/
def answer {α : Type} (name : String) : Option α → Except Fault α
  | some found => .ok found
  | none => .error (.unresolved name)

/-- The root has no parent, and the parent of each other scope lies in a lower slot. -/
structure Ordered (stack : ScopeStack) : Prop where
  rooted : stack.parent root = .ok none
  earlier : ∀ scope, stack.Open scope → scope ≠ root →
    ∃ around, stack.parent scope = .ok (some around) ∧ around.slot < scope.slot

variable {stack next : ScopeStack} {scope : ScopeId} {passed other : List ScopeId} {name : String}

theorem Chain.unique (chain : stack.Chain scope passed) (another : stack.Chain scope other) :
    passed = other := by
  induction chain generalizing other with
  | last alone =>
      cases another with
      | last => rfl
      | link linked => cases alone.symm.trans linked
  | link linked _ ih =>
      cases another with
      | last alone => cases alone.symm.trans linked
      | link linkedToo beyond =>
          cases linked.symm.trans linkedToo
          rw [ih beyond]

theorem Chain.open_of_mem (chain : stack.Chain scope passed) :
    ∀ inner ∈ passed, stack.Open inner := by
  induction chain with
  | last alone =>
      intro inner among
      cases List.mem_singleton.mp among
      exact open_of_parent alone
  | link linked _ ih =>
      intro inner among
      rcases List.mem_cons.mp among with rfl | beyond
      · exact open_of_parent linked
      · exact ih inner beyond

/-- A search that may take enough steps finds the nearest scope of the chain. -/
theorem Chain.locateWithin (chain : stack.Chain scope passed) {steps : Nat}
    (enough : passed.length ≤ steps) :
    stack.locateWithin name steps scope = answer name (stack.nearest? passed name) := by
  induction chain generalizing steps with
  | @last scope alone =>
      obtain ⟨steps, rfl⟩ := Nat.exists_eq_add_one.mpr enough
      obtain ⟨found, here⟩ := (open_of_parent alone).exists_scopeAt
      rw [parent, here] at alone
      injection alone with orphan
      rw [ScopeStack.locateWithin, nearest?, List.findSome?_singleton, held?_of_scopeAt here, here]
      dsimp only
      rw [orphan]
      cases found.find? name <;> rfl
  | @link scope around passed linked beyond ih =>
      obtain ⟨steps, rfl⟩ := Nat.exists_eq_add_one.mpr (Nat.zero_lt_of_lt enough)
      obtain ⟨found, here⟩ := (open_of_parent linked).exists_scopeAt
      rw [parent, here] at linked
      injection linked with within
      rw [ScopeStack.locateWithin, nearest?, List.findSome?_cons, held?_of_scopeAt here, here]
      dsimp only
      rw [within]
      cases found.find? name with
      | some binding => rfl
      | none => exact ih (Nat.le_of_succ_le_succ enough)

/-- In an ordered stack the slots fall along the chain of every scope, down to the root. -/
theorem Ordered.exists_chain (ordered : stack.Ordered) (present : stack.Open scope) :
    ∃ passed, stack.Chain scope passed ∧ passed.getLast? = some root ∧
      passed.Pairwise (fun inner outer => outer.slot < inner.slot) ∧
      passed.length ≤ scope.slot + 1 ∧ ∀ inner ∈ passed, inner.slot ≤ scope.slot := by
  obtain ⟨slot⟩ := scope
  induction slot using Nat.strongRecOn with
  | ind slot ih =>
      by_cases atRoot : (⟨slot⟩ : ScopeId) = root
      · refine ⟨[⟨slot⟩], .last (atRoot ▸ ordered.rooted), by rw [atRoot]; rfl,
          List.pairwise_singleton _ _, Nat.succ_le_succ (Nat.zero_le _), ?_⟩
        intro inner among
        cases List.mem_singleton.mp among
        exact Nat.le_refl _
      · obtain ⟨around, linked, lower⟩ := ordered.earlier _ present atRoot
        obtain ⟨passed, chain, last, falling, short, below⟩ :=
          ih around.slot lower (Nat.lt_trans lower present)
        refine ⟨⟨slot⟩ :: passed, .link linked chain, ?_, ?_, ?_, ?_⟩
        · cases chain <;> simpa [List.getLast?_cons] using last
        · refine List.pairwise_cons.mpr ⟨fun outer among => ?_, falling⟩
          exact Nat.lt_of_le_of_lt (below outer among) lower
        · exact Nat.succ_le_succ (Nat.le_trans short lower)
        · intro inner among
          rcases List.mem_cons.mp among with rfl | beyond
          · exact Nat.le_refl _
          · exact Nat.le_of_lt (Nat.lt_of_le_of_lt (below inner beyond) lower)

/-- In an ordered stack a search never runs out of steps. -/
theorem Ordered.locate (ordered : stack.Ordered) (chain : stack.Chain scope passed) :
    stack.locate scope name = answer name (stack.nearest? passed name) := by
  refine chain.locateWithin ?_
  have present : stack.Open scope := by
    cases chain with
    | last alone => exact open_of_parent alone
    | link linked => exact open_of_parent linked
  obtain ⟨same, chainToo, -, -, short, -⟩ := ordered.exists_chain present
  cases chain.unique chainToo
  have taken : scope.slot < stack.scopes.size := present
  omega

/-- No order is left once a scope is opened inside one that is closed. -/
theorem open_of_ordered_push {around : ScopeId} (ordered : (stack.push around).2.Ordered) :
    stack.Open around := by
  have linked : (stack.push around).2.parent (stack.push around).1 = .ok (some around) := by
    rw [parent_push, if_pos rfl]
  have apart : (stack.push around).1 ≠ root := by
    intro same
    rw [same, ordered.rooted] at linked
    cases linked
  obtain ⟨recorded, linkedToo, lower⟩ :=
    ordered.earlier (stack.push around).1 ((open_push around).mpr (.inr rfl)) apart
  cases linked.symm.trans linkedToo
  exact lower

theorem Ordered.push (ordered : stack.Ordered) {around : ScopeId} (present : stack.Open around) :
    (stack.push around).2.Ordered where
  rooted := by
    have taken := open_of_parent ordered.rooted
    rw [parent_push, if_neg, ordered.rooted]
    intro same
    exact not_open_pushed around (same ▸ taken)
  earlier := by
    intro scope taken apart
    rw [parent_push]
    by_cases new : scope = (stack.push around).1
    · rw [if_pos new, new]
      exact ⟨around, rfl, present⟩
    · rw [if_neg new]
      exact ordered.earlier scope (((open_push around).mp taken).resolve_right new) apart

theorem Ordered.pop (ordered : stack.Ordered) : stack.pop.2.Ordered := by
  by_cases several : 1 < stack.scopes.size
  · have kept : ∀ scope, scope ≠ stack.top → stack.pop.2.parent scope = stack.parent scope := by
      intro scope apart
      rw [parent, parent, scopeAt_pop several apart]
    constructor
    · rw [kept, ordered.rooted]
      intro same
      have atZero : 0 = stack.scopes.size - 1 := congrArg ScopeId.slot same
      omega
    · intro scope taken apart
      obtain ⟨present, below⟩ := (open_pop several).mp taken
      rw [kept scope below]
      exact ordered.earlier scope present apart
  · rw [pop_of_single (Nat.le_of_not_lt several)]
    exact ordered

theorem Ordered.rebound {owner : ScopeId} {binding : Binding} (ordered : stack.Ordered)
    (rebound : stack.Rebound next owner name binding) : next.Ordered where
  rooted := by rw [rebound.parent, ordered.rooted]
  earlier := by
    intro scope present apart
    rw [rebound.parent]
    exact ordered.earlier scope (rebound.open_iff.mp present) apart

end ScopeStack

end CalcScript
