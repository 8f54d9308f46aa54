import CalcScript.Proofs.Scopes.Chains

/-!
# Calls to a scope stack

A host opens and closes scopes and declares and assigns names by handles that it keeps, and some of
its handles may name scopes that are closed by then. A call that is refused leaves the stack as it
was.

A closed handle is refused by every call but one: a scope can be opened inside it. Whoever opens
scopes inside open ones alone keeps the parents in lower slots, and with it an end to every search.
A scope that was opened inside a closed one can have itself as its parent.
-/

set_option autoImplicit false

namespace CalcScript

inductive ScopeCall where
  | push (around : ScopeId)
  | pop
  | declare (scope : ScopeId) (name : String) (value : Value) (constant : Bool)
  | assign (scope : ScopeId) (name : String) (value : Value)
deriving DecidableEq, Repr

def ScopeCall.handle? : ScopeCall → Option ScopeId
  | push around => some around
  | pop => none
  | declare scope _ _ _ => some scope
  | assign scope _ _ => some scope

namespace ScopeStack

def perform (stack : ScopeStack) : ScopeCall → Except Fault ScopeStack
  | .push around => .ok (stack.push around).2
  | .pop => .ok stack.pop.2
  | .declare scope name value constant => stack.declare scope name value constant
  | .assign scope name value => stack.assign scope name value

def after (stack : ScopeStack) (call : ScopeCall) : ScopeStack :=
  match stack.perform call with
  | .ok next => next
  | .error _ => stack

def afterCalls (stack : ScopeStack) (calls : List ScopeCall) : ScopeStack :=
  calls.foldl after stack

/-- The stack that a host begins with, with or without the standard names. -/
def initial (named : Bool) : ScopeStack := if named then standard else bare

/-- Each of some calls fits the stack that it meets. -/
def Throughout (fits : ScopeStack → ScopeCall → Prop) : ScopeStack → List ScopeCall → Prop
  | _, [] => True
  | stack, call :: later => fits stack call ∧ Throughout fits (stack.after call) later

/-- A scope that is opened is opened inside an open one. -/
def OpensInside (stack : ScopeStack) (call : ScopeCall) : Prop :=
  ∀ around, call = .push around → stack.Open around

/-- The handle that is passed is open. -/
def Admits (stack : ScopeStack) (call : ScopeCall) : Prop :=
  ∀ scope ∈ call.handle?, stack.Open scope

instance (stack : ScopeStack) (call : ScopeCall) : Decidable (stack.Admits call) :=
  inferInstanceAs (Decidable (∀ scope ∈ call.handle?, _))

instance decidableThroughout (fits : ScopeStack → ScopeCall → Prop)
    [∀ stack call, Decidable (fits stack call)] :
    ∀ (stack : ScopeStack) (calls : List ScopeCall), Decidable (Throughout fits stack calls)
  | _, [] => .isTrue trivial
  | stack, call :: later =>
    have := decidableThroughout fits (stack.after call) later
    inferInstanceAs (Decidable (_ ∧ _))

variable {stack next : ScopeStack} {call : ScopeCall} {calls : List ScopeCall}

theorem after_of_ok (done : stack.perform call = .ok next) : stack.after call = next := by
  rw [after, done]

theorem after_of_error {fault : Fault} (failed : stack.perform call = .error fault) :
    stack.after call = stack := by
  rw [after, failed]

theorem ordered_initial (named : Bool) : (initial named).Ordered := by
  have single : (initial named).scopes.size = 1 := by cases named <;> rfl
  refine ⟨by cases named <;> rfl, fun scope present apart => absurd ?_ apart⟩
  have atZero : scope.slot = 0 := by
    rw [Open, single] at present
    exact Nat.lt_one_iff.mp present
  exact congrArg ScopeId.mk atZero

theorem Ordered.after_iff (ordered : stack.Ordered) :
    (stack.after call).Ordered ↔ stack.OpensInside call := by
  cases done : stack.perform call with
  | error fault =>
      rw [after_of_error done]
      refine ⟨fun _ around opens => ?_, fun _ => ordered⟩
      subst opens
      cases done
  | ok next =>
      rw [after_of_ok done]
      cases call with
      | push around =>
          cases done
          refine ⟨fun orderedAfter other opens => ?_, fun inside => ordered.push (inside _ rfl)⟩
          cases opens
          exact open_of_ordered_push orderedAfter
      | pop =>
          cases done
          exact ⟨fun _ _ opens => (nomatch opens), fun _ => ordered.pop⟩
      | declare scope name value constant =>
          have orderedAfter := ordered.rebound (rebound_of_declare done).2
          exact ⟨fun _ _ opens => (nomatch opens), fun _ => orderedAfter⟩
      | assign scope name value =>
          obtain ⟨_, _, -, -, -, rebound⟩ := rebound_of_assign done
          exact ⟨fun _ _ opens => (nomatch opens), fun _ => ordered.rebound rebound⟩

/-- A stack stays ordered exactly as long as scopes are opened inside open ones. -/
theorem Ordered.always_iff (ordered : stack.Ordered) :
    (∀ done, done <+: calls → (stack.afterCalls done).Ordered) ↔
      stack.Throughout OpensInside calls := by
  induction calls generalizing stack with
  | nil =>
      refine ⟨fun _ => trivial, fun _ done before => ?_⟩
      rw [List.prefix_nil.mp before]
      exact ordered
  | cons call later ih =>
      constructor
      · intro always
        have orderedNext := always [call] ⟨later, rfl⟩
        refine ⟨ordered.after_iff.mp orderedNext, (ih orderedNext).mp fun done before => ?_⟩
        exact always (call :: done) (List.cons_prefix_cons.mpr ⟨rfl, before⟩)
      · rintro ⟨inside, insideLater⟩ done before
        have orderedNext := ordered.after_iff.mpr inside
        cases done with
        | nil => exact ordered
        | cons first done =>
            obtain ⟨rfl, beforeLater⟩ := List.cons_prefix_cons.mp before
            exact (ih orderedNext).mpr insideLater done beforeLater

/-- What a closed handle can do: nothing, but for a scope that is opened inside it. -/
theorem perform_of_not_open {scope : ScopeId} (absent : ¬ stack.Open scope)
    (given : call.handle? = some scope) :
    (stack.perform call = .error (.closedScope scope) ∧ stack.after call = stack) ∨
      (call = .push scope ∧ ∃ next, stack.perform call = .ok next ∧ ¬ next.Ordered) := by
  have refuses := refuses_of_not_open absent
  cases call with
  | pop => cases given
  | push around =>
      cases given
      exact .inr ⟨rfl, _, rfl, fun ordered => absent (open_of_ordered_push ordered)⟩
  | declare other name value constant =>
      cases given
      have failed := refuses.declare name value constant
      exact .inl ⟨failed, after_of_error failed⟩
  | assign other name value =>
      cases given
      have failed := refuses.assign name value
      exact .inl ⟨failed, after_of_error failed⟩

/-- What holds of a stack after any calls at all. Closed handles are refused except as the place of
a new scope. The parents lie in lower slots at every moment if and only if each scope was opened
inside an open one, and wherever they do, the chain of every open scope comes to the root without
meeting a scope twice and decides every search. -/
theorem guarantee_of_calls (named : Bool) (calls : List ScopeCall) :
    let stack := (initial named).afterCalls calls
    (∀ scope, ¬ stack.Open scope → stack.Refuses scope ∧
      ∀ call : ScopeCall, call.handle? = some scope →
        (stack.perform call = .error (.closedScope scope) ∧ stack.after call = stack) ∨
          (call = .push scope ∧ ∃ next, stack.perform call = .ok next ∧ ¬ next.Ordered)) ∧
    ((∀ done, done <+: calls → ((initial named).afterCalls done).Ordered) ↔
      (initial named).Throughout OpensInside calls) ∧
    (stack.Ordered → ∀ scope, stack.Open scope → ∃ passed, stack.Chain scope passed ∧
      passed.Nodup ∧ passed.getLast? = some root ∧
      ∀ name, stack.locate scope name = answer name (stack.nearest? passed name)) := by
  refine ⟨fun scope absent => ⟨refuses_of_not_open absent, fun call given =>
    perform_of_not_open absent given⟩, (ordered_initial named).always_iff, ?_⟩
  intro ordered scope present
  obtain ⟨passed, chain, last, falling, -⟩ := ordered.exists_chain present
  refine ⟨passed, chain, ?_, last, fun name => ordered.locate chain⟩
  refine falling.imp fun lower same => ?_
  rw [same] at lower
  exact Nat.lt_irrefl _ lower

/-- A handle that was given out, closed and used again opens a scope inside itself. -/
theorem closed_handle_opens_inside_itself :
    (bare.push root).1 = ⟨1⟩ ∧
      ∃ stack, stack = bare.afterCalls [.push root, .pop] ∧ ¬ stack.Open ⟨1⟩ ∧
        ∃ next, stack.perform (.push ⟨1⟩) = .ok next ∧ next.parent ⟨1⟩ = .ok (some ⟨1⟩) ∧
          ∀ name steps, next.locateWithin name steps ⟨1⟩ = .error (.endlessScope ⟨1⟩) := by
  refine ⟨rfl, _, rfl, by decide, _, rfl, rfl, fun name steps => ?_⟩
  induction steps with
  | zero => rfl
  | succ steps ih => exact ih

end ScopeStack

end CalcScript
