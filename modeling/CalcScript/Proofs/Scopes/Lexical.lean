import CalcScript.Proofs.Scopes.Records

/-!
# Lexical scoping

As long as every handle that is passed is open, a scope stack follows the rules of lexical scoping.
A name means what the nearest scope of the chain says in which it was declared, and has the value
that was written to it last. Scopes are closed in the reverse order of their opening and the root is
never closed. No call meets a closed scope or runs round in a circle.
-/

set_option autoImplicit false

namespace CalcScript

namespace ScopeStack

/-- The rules of lexical scoping, for a stack to which this was done. -/
structure Lexical (stack : ScopeStack) (history : History) : Prop where
  opens : ∀ scope, stack.Open scope ↔
    scope = root ∨ ∃ around, (scope, around) ∈ history.openScopes
  rooted : stack.parent root = .ok none
  parents : ∀ scope around, (scope, around) ∈ history.openScopes →
    stack.parent scope = .ok (some around) ∧ around.slot < scope.slot
  /-- The scope that was opened last is closed first. -/
  closes : ∀ scope around outer, history.openScopes = (scope, around) :: outer →
    stack.pop.1 = some around ∧
      (∀ other, stack.pop.2.Open other ↔ stack.Open other ∧ other ≠ scope) ∧
      ∀ other, other ≠ scope → stack.pop.2.scopeAt other = stack.scopeAt other
  keepsRoot : history.openScopes = [] → stack.pop = (none, stack)
  chains : ∀ scope, stack.Open scope →
    ∃ passed, stack.Chain scope passed ∧ passed.getLast? = some root
  found : ∀ scope passed name owner, stack.Chain scope passed →
    history.owner? passed name = some owner →
      ∃ value constant, history.lastWritten? owner name = some value ∧
        history.declaredAs? owner name = some constant ∧
        stack.owner scope name = .ok owner ∧ stack.read scope name = .ok value ∧
        stack.isConstant scope name = .ok constant ∧
        ∀ new,
          (constant = true → stack.assign scope name new = .error (.constantReassignment name)) ∧
          (constant = false → ∃ next, stack.assign scope name new = .ok next)
  missing : ∀ scope passed name, stack.Chain scope passed → history.owner? passed name = none →
    stack.owner scope name = .error (.unresolved name) ∧
      stack.read scope name = .error (.unresolved name) ∧
      stack.isConstant scope name = .ok false ∧
      ∀ new, stack.assign scope name new = .error (.unresolved name)
  declares : ∀ scope name value constant, stack.Open scope →
    ((history.declaredAs? scope name).isSome = true →
      stack.declare scope name value constant = .error (.duplicateDeclaration name)) ∧
    (history.declaredAs? scope name = none →
      ∃ next, stack.declare scope name value constant = .ok next)
  /-- A call with an open handle is refused for a name alone, and then nothing is done. -/
  refused : ∀ call fault, stack.Admits call → stack.perform call = .error fault →
    (∃ name, fault = .unresolved name ∨ fault = .duplicateDeclaration name ∨
      fault = .constantReassignment name) ∧
      stack.after call = stack ∧ stack.recorded history call = history

variable {stack : ScopeStack} {history : History} {scope : ScopeId} {name : String}
variable {passed : List ScopeId}

/-- On a chain, the nearest scope that binds a name is the nearest in which it was declared. -/
theorem nearest?_eq (agree : ∀ inner ∈ passed, stack.held? inner name = history.binding? inner name) :
    stack.nearest? passed name =
      (history.owner? passed name).bind fun owner => (history.binding? owner name).map (owner, ·) := by
  induction passed with
  | nil => rfl
  | cons inner passed ih =>
      obtain ⟨here, beyond⟩ := List.forall_mem_cons.mp agree
      rw [nearest?, List.findSome?_cons, here, History.owner?, List.find?_cons]
      have declared := history.isSome_binding? inner name
      cases bound : history.binding? inner name with
      | none =>
          rw [bound] at declared
          rw [← declared]
          exact ih beyond
      | some binding =>
          rw [bound] at declared
          rw [← declared]
          change _ = (history.binding? inner name).map (inner, ·)
          rw [bound]
          rfl

theorem exists_of_owner? {owner : ScopeId} (nearest : history.owner? passed name = some owner) :
    ∃ binding, history.binding? owner name = some binding := by
  have declared := List.find?_some nearest
  rw [← History.isSome_binding?] at declared
  exact Option.isSome_iff_exists.mp declared

namespace Records

variable (records : stack.Records history)

include records in
theorem locate_eq (chain : stack.Chain scope passed) :
    stack.locate scope name =
      answer name ((history.owner? passed name).bind fun owner =>
        (history.binding? owner name).map (owner, ·)) := by
  rw [records.ordered.locate chain, nearest?_eq]
  intro inner among
  exact records.held inner (chain.open_of_mem inner among) name

include records in
theorem found {owner : ScopeId} (chain : stack.Chain scope passed)
    (nearest : history.owner? passed name = some owner) :
    ∃ value constant, history.lastWritten? owner name = some value ∧
      history.declaredAs? owner name = some constant ∧
      stack.owner scope name = .ok owner ∧ stack.read scope name = .ok value ∧
      stack.isConstant scope name = .ok constant ∧
      ∀ new,
        (constant = true → stack.assign scope name new = .error (.constantReassignment name)) ∧
        (constant = false → ∃ next, stack.assign scope name new = .ok next) := by
  obtain ⟨binding, bound⟩ := exists_of_owner? nearest
  obtain ⟨declared, written⟩ := History.binding?_eq_some_iff.mp bound
  have located : stack.locate scope name = .ok (owner, binding) := by
    rw [records.locate_eq chain, nearest, Option.bind_some, bound]
    rfl
  refine ⟨binding.value, binding.constant, written, declared, ?_, ?_, ?_, fun new => ?_⟩
  · rw [ScopeStack.owner, located]
    rfl
  · rw [read, located]
    rfl
  · rw [isConstant, located]
  · rw [assign, located]
    exact ⟨fun isConstant => if_pos isConstant, fun changeable => ⟨_, if_neg (by simp [changeable])⟩⟩

include records in
theorem missing (chain : stack.Chain scope passed) (nowhere : history.owner? passed name = none) :
    stack.owner scope name = .error (.unresolved name) ∧
      stack.read scope name = .error (.unresolved name) ∧
      stack.isConstant scope name = .ok false ∧
      ∀ new, stack.assign scope name new = .error (.unresolved name) := by
  have located : stack.locate scope name = .error (.unresolved name) := by
    rw [records.locate_eq chain, nowhere]
    rfl
  refine ⟨?_, ?_, ?_, fun new => ?_⟩
  · rw [ScopeStack.owner, located]
    rfl
  · rw [read, located]
    rfl
  · rw [isConstant, located]
  · rw [assign, located]

include records in
theorem declare_eq (present : stack.Open scope) (value : Value) (constant : Bool) :
    stack.declare scope name value constant =
      if (history.declaredAs? scope name).isSome then .error (.duplicateDeclaration name)
      else .ok (stack.modify scope (·.bind name ⟨value, constant⟩)) := by
  rw [declare_of_open present, records.held scope present, History.isSome_binding?]

include records in
theorem fault_of_error {call : ScopeCall} {fault : Fault} (admitted : stack.Admits call)
    (failed : stack.perform call = .error fault) :
    ∃ name, fault = .unresolved name ∨ fault = .duplicateDeclaration name ∨
      fault = .constantReassignment name := by
  cases call with
  | push around => cases failed
  | pop => cases failed
  | declare scope name value constant =>
      rw [perform, records.declare_eq (admitted scope rfl)] at failed
      split at failed
      case isTrue =>
        cases failed
        exact ⟨name, .inr (.inl rfl)⟩
      case isFalse => cases failed
  | assign scope name value =>
      rw [perform] at failed
      obtain ⟨passed, chain, -⟩ := records.ordered.exists_chain (admitted scope rfl)
      cases nearest : history.owner? passed name with
      | none =>
          cases ((records.missing chain nearest).2.2.2 value).symm.trans failed
          exact ⟨name, .inl rfl⟩
      | some owner =>
          obtain ⟨_, constant, -, -, -, -, -, assigns⟩ := records.found chain nearest
          cases constant with
          | true =>
              cases ((assigns value).1 rfl).symm.trans failed
              exact ⟨name, .inr (.inr rfl)⟩
          | false =>
              obtain ⟨next, done⟩ := (assigns value).2 rfl
              cases done.symm.trans failed

include records in
theorem lexical : stack.Lexical history where
  opens := records.open_iff
  rooted := records.ordered.rooted
  parents := by
    intro scope around among
    have linked := records.parents scope around among
    have aboveRoot := ((records.stacked.mem_iff scope).mp ⟨around, among⟩).1
    have apart : scope ≠ root := fun same => Nat.ne_of_gt aboveRoot (congrArg ScopeId.slot same)
    obtain ⟨_, linkedToo, lower⟩ := records.ordered.earlier scope (open_of_parent linked) apart
    cases linked.symm.trans linkedToo
    exact ⟨linked, lower⟩
  closes := by
    intro scope around outer last
    obtain ⟨several, rfl, returned⟩ := records.several last
    exact ⟨returned, fun _ => open_pop several, fun _ => scopeAt_pop several⟩
  keepsRoot := fun empty => pop_of_single (records.single empty)
  chains := by
    intro scope present
    obtain ⟨passed, chain, last, -⟩ := records.ordered.exists_chain present
    exact ⟨passed, chain, last⟩
  found := fun _ _ _ _ => records.found
  missing := fun _ _ _ => records.missing
  declares := by
    intro scope name value constant present
    rw [records.declare_eq present]
    refine ⟨fun declared => if_pos declared, fun free => ⟨_, if_neg ?_⟩⟩
    rw [free]
    exact Bool.false_ne_true
  refused := by
    intro call fault admitted failed
    exact ⟨records.fault_of_error admitted failed, after_of_error failed,
      recorded_of_error failed⟩

end Records

/-- After any calls with open handles, from the bare or from the standard stack, the scopes follow
the rules of lexical scoping. -/
theorem lexical_afterCalls (named : Bool) {calls : List ScopeCall}
    (inRange : (initial named).Throughout Admits calls) :
    ((initial named).afterCalls calls).Lexical
      ((initial named).historyAfter (initialHistory named) calls) :=
  ((records_initial named).afterCalls inRange).lexical

/-- A slot that is used again, and a constant that hides a name of the root. -/
theorem lexical_afterCalls_reopened :
    ∃ calls : List ScopeCall, calls = [.push root, .pop, .declare root "x" .null false, .push root,
        .declare ⟨1⟩ "x" (.boolean true) true, .assign ⟨1⟩ "x" .null, .assign root "x" .null] ∧
      (initial true).Throughout Admits calls ∧
      ((initial true).afterCalls calls).Lexical
        ((initial true).historyAfter (initialHistory true) calls) :=
  ⟨_, rfl, by decide, lexical_afterCalls true (by decide)⟩

end ScopeStack

end CalcScript
