import CalcScript.Proofs.Scopes.Tables
import CalcScript.Proofs.Session.Permanence

/-!
# Constants are protected

Whatever is done to a stack of scopes, and with whatever handles, a binding stays what it was
declared as for as long as its scope is open: a constant keeps its value, and what is no constant
never becomes one. A binding goes away only with its scope, and the next scope in the slot begins
without names and without marks.
-/

set_option autoImplicit false

namespace CalcScript

namespace ScopeStack

/-- The call closes a scope, which is the one opened last. -/
def Drops (scope : ScopeId) (stack : ScopeStack) (call : ScopeCall) : Prop :=
  call = .pop ∧ 1 < stack.scopes.size ∧ scope = stack.top

variable {stack next : ScopeStack} {scope : ScopeId} {name : String} {old : Binding}

/-- A call that leaves a scope open keeps what it binds. -/
theorem kept_after {call : ScopeCall} (held : stack.held? scope name = some old)
    (stays : ¬Drops scope stack call) :
    ∃ new, (stack.after call).held? scope name = some new ∧ old.Keeps new := by
  cases done : stack.perform call with
  | error fault =>
      rw [after_of_error done]
      exact ⟨old, held, .refl old⟩
  | ok next =>
      rw [after_of_ok done]
      cases call with
      | push around =>
          cases done
          exact ⟨old, (held?_push around).trans held, .refl old⟩
      | pop =>
          cases done
          by_cases several : 1 < stack.scopes.size
          · have below : scope ≠ stack.top := fun atTop => stays ⟨rfl, several, atTop⟩
            rw [held?, scopeAt_pop several below]
            exact ⟨old, held, .refl old⟩
          · rw [pop_of_single (Nat.le_of_not_lt several)]
            exact ⟨old, held, .refl old⟩
      | declare other declared value constant =>
          obtain ⟨free, rebound⟩ := rebound_of_declare done
          rw [rebound.held, if_neg]
          · exact ⟨old, held, .refl old⟩
          · rintro ⟨rfl, rfl⟩
            cases free.symm.trans held
      | assign other assigned value =>
          obtain ⟨owner, previous, -, changeable, bound, rebound⟩ := rebound_of_assign done
          rw [rebound.held]
          split
          case isTrue same =>
            obtain ⟨rfl, rfl⟩ := same
            cases bound.symm.trans held
            -- what is written over is no constant, so it has no value to keep
            refine ⟨_, rfl, rfl, fun constant => ?_⟩
            cases changeable.symm.trans constant
          case isFalse => exact ⟨old, held, .refl old⟩

theorem kept_afterCalls {calls : List ScopeCall} (held : stack.held? scope name = some old)
    (stays : stack.Throughout (fun stack call => ¬Drops scope stack call) calls) :
    ∃ new, (stack.afterCalls calls).held? scope name = some new ∧ old.Keeps new := by
  induction calls generalizing stack old with
  | nil => exact ⟨old, held, .refl old⟩
  | cons call later ih =>
      obtain ⟨staysHere, staysLater⟩ := stays
      obtain ⟨middle, heldMiddle, kept⟩ := kept_after held staysHere
      obtain ⟨new, heldNew, keptLater⟩ := ih heldMiddle staysLater
      exact ⟨new, heldNew, kept.trans keptLater⟩

/-- What a stack does for its constants, whatever its parents are. -/
structure Protects (stack : ScopeStack) : Prop where
  declared : ∀ scope name value constant next,
    stack.declare scope name value constant = .ok next →
      next.held? scope name = some ⟨value, constant⟩
  /-- A binding stays as long as its scope does. -/
  kept : ∀ scope name old calls, stack.held? scope name = some old →
    stack.Throughout (fun stack call => ¬Drops scope stack call) calls →
      ∃ new, (stack.afterCalls calls).held? scope name = some new ∧ old.Keeps new
  again : ∀ scope name old value constant, stack.held? scope name = some old →
    stack.declare scope name value constant = .error (.duplicateDeclaration name)
  /-- No way that leads to a constant leads to another value for it. -/
  refused : ∀ scope name owner old value, stack.locate scope name = .ok (owner, old) →
    old.constant = true → stack.assign scope name value = .error (.constantReassignment name)
  fresh : ∀ around,
    (stack.push around).2.scopeAt (stack.push around).1 = .ok (Scope.empty (some around))

theorem protects (stack : ScopeStack) : stack.Protects where
  declared := by
    intro scope name value constant next done
    rw [(rebound_of_declare done).2.held, if_pos ⟨rfl, rfl⟩]
  kept := fun scope name old calls held stays => kept_afterCalls held stays
  again := by
    intro scope name old value constant held
    rw [declare_of_open (open_of_held? held), held]
    rfl
  refused := by
    intro scope name owner old value located constant
    rw [assign, located]
    exact if_pos constant
  fresh := by
    intro around
    rw [scopeAt_push, if_pos rfl]

/-- Any calls at all, with handles of whatever scopes, do the same to tables of values and of marks
as to the scopes. Afterwards no name is marked that has no value, a scope that is opened has neither
values nor marks, and the constants are protected. -/
theorem constants_protected (named : Bool) (calls : List ScopeCall) :
    let stack := (initial named).afterCalls calls
    let tables := (TableStack.initial named).afterCalls calls
    (∀ call, SameOutcome TableStack.Shows (tables.perform call) (stack.perform call)) ∧
      (∀ scope found, tables.scopeAt scope = .ok found →
        (∀ name ∈ found.constants, name ∈ found.values) ∧
          ∀ name, found.find? name = stack.held? scope name) ∧
      (∀ around,
        (tables.push around).2.scopeAt (tables.push around).1 = .ok (.empty (some around))) ∧
      stack.Protects := by
  have shown := (TableStack.shows_initial named).afterCalls calls
  refine ⟨shown.perform, fun scope found here => ?_, fun around => ?_, protects _⟩
  · rcases (shown.scopeAt scope).fail_or_succeed with
      ⟨fault, absent, -⟩ | ⟨same, other, again, there, alike⟩
    · cases absent.symm.trans here
    · cases again.symm.trans here
      refine ⟨alike.marked, fun name => ?_⟩
      rw [held?_of_scopeAt there, alike.find?]
  · exact TableStack.scopeAt_eq_ok_iff.mpr (by simp [TableStack.push])

/-- A slot is used again, and the constant that was declared in it is gone with its mark. -/
example :
    let stack := bare.afterCalls
      [.push root, .declare ⟨1⟩ "k" .null true, .assign ⟨1⟩ "k" (.boolean true)]
    stack.held? ⟨1⟩ "k" = some ⟨.null, true⟩ ∧
      (stack.afterCalls [.pop, .push ⟨1⟩]).held? ⟨1⟩ "k" = none := by
  decide

end ScopeStack

end CalcScript
