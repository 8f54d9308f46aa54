import Mathlib.Data.Nat.PSub
import CalcScript.Proofs.Scopes.History

/-!
# Scopes that are gone

A scope that is opened and closed again leaves nothing behind but what was written through it to the
scopes around it. Whatever else was done in the meantime, to it and to scopes that were opened and
closed above it, could as well not have been done.
-/

set_option autoImplicit false

namespace CalcScript

/-- Counts the scopes that were opened and not closed since. No scope but these is to be closed. -/
def ScopeCall.leftOpen (count : Nat) : ScopeCall → Option Nat
  | .push _ => some (count + 1)
  | .pop => count.ppred
  | .declare _ _ _ _ | .assign _ _ _ => some count

/-- The calls close the scopes that they open and no others. -/
def ScopeCall.Balanced (calls : List ScopeCall) : Prop :=
  calls.foldlM ScopeCall.leftOpen 0 = some 0

instance (calls : List ScopeCall) : Decidable (ScopeCall.Balanced calls) :=
  inferInstanceAs (Decidable (_ = _))

/-- The call that repeats a write to one of the scopes of a stack, right where it was written. -/
def Deed.repeated? (outer : ScopeStack) : Deed → Option ScopeCall
  | declared scope name value constant =>
    if outer.Open scope then some (.declare scope name value constant) else none
  | assigned owner name value => if outer.Open owner then some (.assign owner name value) else none
  | opened _ _ | closed => none

namespace ScopeStack

/-- The writes to scopes of an outer stack that succeed in the course of some calls. -/
def lasting (outer : ScopeStack) : ScopeStack → List ScopeCall → List ScopeCall
  | _, [] => []
  | stack, call :: later =>
    ((stack.deed? call).bind (Deed.repeated? outer)).toList ++
      lasting outer (stack.after call) later

/-! ## Inside an opened scope -/

/-- A scope was opened on top of an outer stack, and more are open on top of it. The scopes below
are as in the stack that is reached by the lasting writes alone. -/
structure Inside (outer : ScopeStack) (around : ScopeId) (count : Nat)
    (stack reached : ScopeStack) : Prop where
  size : stack.scopes.size = outer.scopes.size + 1 + count
  sizeReached : reached.scopes.size = outer.scopes.size
  opened : stack.parent (outer.push around).1 = .ok (some around)
  kept : ∀ scope, outer.Open scope → stack.scopeAt scope = reached.scopeAt scope

namespace Inside

variable {outer stack reached next : ScopeStack} {around scope : ScopeId} {count left last : Nat}
  {name : String} {value : Value} {constant : Bool} {calls : List ScopeCall} {call : ScopeCall}

theorem start (outer : ScopeStack) (around : ScopeId) :
    Inside outer around 0 (outer.push around).2 outer where
  size := Array.size_push _
  sizeReached := rfl
  opened := by rw [parent_push, if_pos rfl]
  kept := by
    intro scope below
    rw [scopeAt_push, if_neg]
    rintro rfl
    exact not_open_pushed around below

/-- Nothing happened to the opened scope and to those below it. -/
theorem above (inside : Inside outer around count stack reached)
    (size : next.scopes.size = outer.scopes.size + 1 + left)
    (same : ∀ scope, scope.slot ≤ outer.scopes.size → next.scopeAt scope = stack.scopeAt scope) :
    Inside outer around left next reached where
  size := size
  sizeReached := inside.sizeReached
  opened := by
    rw [parent, same (outer.push around).1 (Nat.le_refl outer.scopes.size)]
    exact inside.opened
  kept := fun scope below =>
    (same scope (Nat.le_of_lt below)).trans (inside.kept scope below)

theorem push (inside : Inside outer around count stack reached) (other : ScopeId) :
    Inside outer around (count + 1) (stack.push other).2 reached := by
  have size := inside.size
  refine inside.above ((Array.size_push _).trans (congrArg (· + 1) size)) fun scope low => ?_
  rw [scopeAt_push, if_neg]
  rintro rfl
  have taken : stack.scopes.size ≤ outer.scopes.size := low
  omega

theorem pop (inside : Inside outer around (count + 1) stack reached) :
    Inside outer around count stack.pop.2 reached := by
  have size := inside.size
  have several : 1 < stack.scopes.size := by omega
  refine inside.above ?_ fun scope low => scopeAt_pop several ?_
  · rw [ScopeStack.pop, if_neg (Nat.not_le.mpr several), Array.size_pop]
    omega
  · rintro rfl
    have highest : stack.scopes.size - 1 ≤ outer.scopes.size := low
    omega

/-- A scope below is changed along with its counterpart. For a scope above there is none, and the
change of a free slot comes to nothing. -/
theorem modify (inside : Inside outer around count stack reached) (owner : ScopeId)
    {change : Scope → Scope} (keeps : ∀ found, (change found).parent = found.parent) :
    Inside outer around count (stack.modify owner change) (reached.modify owner change) where
  size := Array.size_modify.trans inside.size
  sizeReached := Array.size_modify.trans inside.sizeReached
  opened := (parent_modify keeps _).trans inside.opened
  kept := by
    intro scope below
    rw [scopeAt_modify, scopeAt_modify, inside.kept scope below]

theorem open_iff (inside : Inside outer around count stack reached) :
    outer.Open scope ↔ reached.Open scope := by
  rw [Open, Open, inside.sizeReached]

theorem declare (inside : Inside outer around count stack reached)
    (declared : stack.declare scope name value constant = .ok next) :
    ∃ after, ((Deed.declared scope name value constant).repeated? outer).toList.foldlM perform
        reached = .ok after ∧ Inside outer around count next after := by
  obtain ⟨found, here, free, rfl⟩ := declare_eq_ok_iff.mp declared
  refine ⟨_, ?_, inside.modify scope fun _ => rfl⟩
  rw [Deed.repeated?]
  split
  case isTrue below =>
    have hereToo := (inside.kept scope below).symm.trans here
    have declaredToo : reached.declare scope name value constant = .ok _ :=
      declare_eq_ok_iff.mpr ⟨found, hereToo, free, rfl⟩
    rw [Option.toList_some, List.foldlM_cons, perform, declaredToo]
    rfl
  case isFalse above =>
    rw [modify_of_not_open (inside.open_iff.not.mp above)]
    rfl

theorem assign (inside : Inside outer around count stack reached)
    (assigned : stack.assign scope name value = .ok next) :
    ∃ owner after, stack.owner scope name = .ok owner ∧
      ((Deed.assigned owner name value).repeated? outer).toList.foldlM perform reached =
        .ok after ∧ Inside outer around count next after := by
  obtain ⟨owner, old, located, changeable, rfl⟩ := assign_eq_ok_iff.mp assigned
  have held := held?_of_locateWithin located
  obtain ⟨found, here⟩ := (open_of_held? held).exists_scopeAt
  have bound := (held?_of_scopeAt here).symm.trans held
  refine ⟨owner, _, by rw [ScopeStack.owner, located]; rfl, ?_, inside.modify owner fun _ => rfl⟩
  rw [Deed.repeated?]
  split
  case isTrue below =>
    have hereToo := (inside.kept owner below).symm.trans here
    have assignedToo : reached.assign owner name value = .ok _ :=
      assign_eq_ok_iff.mpr ⟨owner, old, locate_of_scopeAt hereToo bound, changeable, rfl⟩
    rw [Option.toList_some, List.foldlM_cons, perform, assignedToo]
    rfl
  case isFalse above =>
    rw [modify_of_not_open (inside.open_iff.not.mp above)]
    rfl

theorem after (inside : Inside outer around count stack reached)
    (counted : call.leftOpen count = some left) :
    ∃ next, ((stack.deed? call).bind (Deed.repeated? outer)).toList.foldlM perform reached =
        .ok next ∧ Inside outer around left (stack.after call) next := by
  cases done : stack.perform call with
  | error fault =>
      rw [deed?_of_error done, after_of_error done]
      cases call with
      | push | pop => cases done
      | declare | assign =>
          cases counted
          exact ⟨reached, rfl, inside⟩
  | ok next =>
      rw [after_of_ok done]
      cases call with
      | push other =>
          cases done
          cases counted
          exact ⟨reached, rfl, inside.push other⟩
      | pop =>
          cases done
          have before := Nat.ppred_eq_some.mp counted
          subst before
          refine ⟨reached, ?_, inside.pop⟩
          rw [deed?]
          cases stack.pop.1 <;> rfl
      | declare scope name value constant =>
          cases counted
          have declared : stack.declare scope name value constant = .ok next := done
          rw [deed?, declared]
          exact inside.declare declared
      | assign scope name value =>
          cases counted
          have assigned : stack.assign scope name value = .ok next := done
          obtain ⟨owner, after, located, repeated⟩ := inside.assign assigned
          rw [deed?, assigned, located]
          exact ⟨after, repeated⟩

theorem afterCalls (inside : Inside outer around count stack reached)
    (counted : calls.foldlM ScopeCall.leftOpen count = some last) :
    ∃ next, (lasting outer stack calls).foldlM perform reached = .ok next ∧
      Inside outer around last (stack.afterCalls calls) next := by
  -- The count of the scopes above the opened one goes along with the calls.
  induction calls generalizing stack reached count with
  | nil =>
      cases counted
      exact ⟨reached, rfl, inside⟩
  | cons call later ih =>
      rw [List.foldlM_cons] at counted
      obtain ⟨left, countedHere, countedLater⟩ := Option.bind_eq_some_iff.mp counted
      obtain ⟨middle, repeated, insideThen⟩ := inside.after countedHere
      obtain ⟨next, repeatedLater, insideLast⟩ := ih insideThen countedLater
      refine ⟨next, ?_, insideLast⟩
      rw [lasting, List.foldlM_append, repeated]
      exact repeatedLater

/-- Nothing is left above the scopes below once the opened scope is closed. -/
theorem closed (inside : Inside outer around 0 stack reached) (present : outer.Open root) :
    stack.top = (outer.push around).1 ∧ stack.pop.1 = some around ∧ stack.pop.2 = reached := by
  have size : stack.scopes.size = outer.scopes.size + 1 := inside.size
  have several : 1 < stack.scopes.size := by
    rw [size]
    exact Nat.succ_lt_succ present
  have atTop : stack.top = (outer.push around).1 := by
    rw [top, size]
    rfl
  have linked := pop_fst several
  rw [atTop, inside.opened] at linked
  refine ⟨atTop, (Except.ok.inj linked).symm, ext_scopeAt ?_ fun scope still => ?_⟩
  · rw [ScopeStack.pop, if_neg (Nat.not_le.mpr several), Array.size_pop, size, inside.sizeReached]
    rfl
  · obtain ⟨taken, apart⟩ := (open_pop several).mp still
    have below : outer.Open scope := by
      by_contra above
      refine apart (atTop.trans (congrArg ScopeId.mk ?_)).symm
      simp only [Open] at taken above
      show outer.scopes.size = scope.slot
      omega
    rw [scopeAt_pop several apart, inside.kept scope below]

end Inside

theorem lasting_append (outer stack : ScopeStack) (first second : List ScopeCall) :
    outer.lasting stack (first ++ second) =
      outer.lasting stack first ++ outer.lasting (stack.afterCalls first) second := by
  induction first generalizing stack with
  | nil => rfl
  | cons call later ih =>
      rw [List.cons_append, lasting, lasting, ih, List.append_assoc]
      rfl

theorem lasting_pop (outer stack : ScopeStack) : outer.lasting stack [.pop] = [] := by
  rw [lasting, deed?]
  cases stack.pop.1 <;> rfl

theorem Open.root_after {stack : ScopeStack} (present : stack.Open root) (call : ScopeCall) :
    (stack.after call).Open root := by
  cases done : stack.perform call with
  | error fault =>
      rw [after_of_error done]
      exact present
  | ok next =>
      rw [after_of_ok done]
      cases call with
      | push around =>
          cases done
          exact (open_push around).mpr (.inl present)
      | pop =>
          cases done
          by_cases single : stack.scopes.size ≤ 1
          · rw [pop_of_single single]
            exact present
          · have several := Nat.lt_of_not_le single
            refine (open_pop several).mpr ⟨present, fun same => ?_⟩
            have highest : 0 = stack.scopes.size - 1 := congrArg ScopeId.slot same
            omega
      | declare scope name value constant =>
          exact (rebound_of_declare done).2.open_iff.mpr present
      | assign scope name value =>
          obtain ⟨_, _, -, -, -, rebound⟩ := rebound_of_assign done
          exact rebound.open_iff.mpr present

theorem Open.root_afterCalls {stack : ScopeStack} (present : stack.Open root)
    (calls : List ScopeCall) : (stack.afterCalls calls).Open root := by
  induction calls generalizing stack with
  | nil => exact present
  | cons call later ih => exact ih (present.root_after call)

/-- Whatever was done before, a scope that is opened can be erased once it is closed again. The call
that closes it gives the handle that it was opened in. The stack is then the same as if, instead of
all calls since, the writes to the scopes around had been done alone, each right where it was
written, and all of these succeed. -/
theorem erase_opened (named : Bool) (earlier : List ScopeCall) (around : ScopeId)
    {calls : List ScopeCall} (balanced : ScopeCall.Balanced calls) :
    let stack := (initial named).afterCalls earlier
    let inner := stack.afterCalls (.push around :: calls)
    let bracket := .push around :: calls ++ [.pop]
    inner.top = (stack.push around).1 ∧ inner.pop.1 = some around ∧
      (stack.lasting stack bracket).foldlM perform stack = .ok (stack.afterCalls bracket) := by
  intro stack inner bracket
  have start : (initial named).Open root := by cases named <;> decide
  have present : stack.Open root := start.root_afterCalls earlier
  obtain ⟨reached, repeated, inside⟩ := (Inside.start stack around).afterCalls balanced
  obtain ⟨atTop, returned, rest⟩ := inside.closed present
  refine ⟨atTop, returned, ?_⟩
  have after : stack.afterCalls bracket = reached := by
    rw [← rest]
    exact List.foldl_append
  have writes : stack.lasting stack bracket = stack.lasting (stack.push around).2 calls := by
    refine (lasting_append stack stack (.push around :: calls) [.pop]).trans ?_
    rw [lasting_pop, List.append_nil]
    rfl
  rw [after, writes]
  exact repeated

/-- A constant that shadows a name, an assignment that it refuses, and a slot that is used twice:
four writes to the scopes around are all that lasts. -/
theorem erase_opened_shadowed :
    ∃ stack bracket writes, stack = (initial true).afterCalls
        [.declare root "x" (.boolean true) false, .push root, .declare ⟨1⟩ "y" .null false] ∧
      bracket = [.push ⟨1⟩, .assign ⟨2⟩ "x" (.boolean false), .declare ⟨2⟩ "x" .null true,
        .assign ⟨2⟩ "x" (.boolean true), .push ⟨2⟩, .assign ⟨3⟩ "y" (.boolean true), .pop,
        .push ⟨1⟩, .assign ⟨3⟩ "x" .null, .declare ⟨1⟩ "z" .null true, .pop, .pop] ∧
      writes = [.assign root "x" (.boolean false), .assign ⟨1⟩ "y" (.boolean true),
        .assign root "x" .null, .declare ⟨1⟩ "z" .null true] ∧
      writes.foldlM perform stack = .ok (stack.afterCalls bracket) := by
  let earlier : List ScopeCall :=
    [.declare root "x" (.boolean true) false, .push root, .declare ⟨1⟩ "y" .null false]
  let calls : List ScopeCall := [.assign ⟨2⟩ "x" (.boolean false), .declare ⟨2⟩ "x" .null true,
    .assign ⟨2⟩ "x" (.boolean true), .push ⟨2⟩, .assign ⟨3⟩ "y" (.boolean true), .pop,
    .push ⟨1⟩, .assign ⟨3⟩ "x" .null, .declare ⟨1⟩ "z" .null true, .pop]
  have balanced : ScopeCall.Balanced calls := by decide
  obtain ⟨-, -, erased⟩ := erase_opened true earlier ⟨1⟩ balanced
  exact ⟨_, _, _, rfl, rfl, by decide, erased⟩

end ScopeStack

end CalcScript
