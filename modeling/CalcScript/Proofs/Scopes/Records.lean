import CalcScript.Proofs.Scopes.History

/-!
# Scope stacks and their histories

A stack records its history: the scopes that the history leaves open take up the slots from the root
upwards, each with the parent that it was opened in, and each binds the names as the deeds since its
opening say. Calls with open handles keep it so.
-/

set_option autoImplicit false

namespace CalcScript

namespace ScopeStack

/-- Scopes that take up the slots below a number, each in the slot below the one before it, down to
the slot above the root. -/
def Stacked : List (ScopeId × ScopeId) → Nat → Prop
  | [], size => size = 1
  | (scope, _) :: outer, size => scope.slot + 1 = size ∧ Stacked outer scope.slot

theorem Stacked.one_le {scopes : List (ScopeId × ScopeId)} {size : Nat}
    (stacked : Stacked scopes size) : 1 ≤ size := by
  cases scopes with
  | nil => exact Nat.le_of_eq stacked.symm
  | cons entry outer =>
      rw [← stacked.1]
      exact Nat.succ_le_succ (Nat.zero_le _)

theorem Stacked.mem_iff {scopes : List (ScopeId × ScopeId)} {size : Nat}
    (stacked : Stacked scopes size) (scope : ScopeId) :
    (∃ around, (scope, around) ∈ scopes) ↔ 0 < scope.slot ∧ scope.slot < size := by
  induction scopes generalizing size with
  | nil =>
      have single : size = 1 := stacked
      subst single
      constructor
      · rintro ⟨_, among⟩
        cases among
      · omega
  | cons entry outer ih =>
      obtain ⟨inner, within⟩ := entry
      obtain ⟨rfl, below⟩ := stacked
      have positive := below.one_le
      constructor
      · rintro ⟨around, among⟩
        rcases List.mem_cons.mp among with same | later
        · cases same
          omega
        · have bounds := (ih below).mp ⟨around, later⟩
          omega
      · rintro ⟨aboveRoot, lower⟩
        by_cases same : scope = inner
        · exact ⟨within, same ▸ List.mem_cons_self⟩
        · have apart : scope.slot ≠ inner.slot := fun equal => same (congrArg ScopeId.mk equal)
          obtain ⟨around, among⟩ := (ih below).mpr ⟨aboveRoot, by omega⟩
          exact ⟨around, List.mem_cons_of_mem _ among⟩

/-- What holds between a stack and its history from call to call. -/
structure Records (stack : ScopeStack) (history : History) : Prop where
  ordered : stack.Ordered
  stacked : Stacked history.openScopes stack.scopes.size
  parents : ∀ scope around, (scope, around) ∈ history.openScopes →
    stack.parent scope = .ok (some around)
  held : ∀ scope, stack.Open scope → ∀ name, stack.held? scope name = history.binding? scope name

variable {stack next : ScopeStack} {history : History} {call : ScopeCall}
variable {calls : List ScopeCall}

theorem Records.open_iff (records : stack.Records history) (scope : ScopeId) :
    stack.Open scope ↔ scope = root ∨ ∃ around, (scope, around) ∈ history.openScopes := by
  have positive := records.stacked.one_le
  rw [records.stacked.mem_iff, Open]
  constructor
  · intro lower
    by_cases atZero : scope.slot = 0
    · exact .inl (congrArg ScopeId.mk atZero)
    · exact .inr ⟨Nat.pos_of_ne_zero atZero, lower⟩
  · rintro (rfl | ⟨-, lower⟩)
    · exact positive
    · exact lower

theorem Records.push (records : stack.Records history) {around : ScopeId}
    (present : stack.Open around) :
    (stack.push around).2.Records (.opened (stack.push around).1 around :: history) where
  ordered := records.ordered.push present
  stacked := ⟨(Array.size_push _).symm, records.stacked⟩
  parents := by
    intro scope outer among
    rw [parent_push]
    rcases List.mem_cons.mp among with same | earlier
    · cases same
      exact if_pos rfl
    · have lower := ((records.stacked.mem_iff scope).mp ⟨outer, earlier⟩).2
      have old : scope ≠ (stack.push around).1 := by
        rintro rfl
        exact not_open_pushed around lower
      rw [if_neg old]
      exact records.parents scope outer earlier
  held := by
    intro scope taken name
    rw [held?_push, History.binding?_opened]
    split
    case isTrue new => rw [held?_of_not_open (new ▸ not_open_pushed around)]
    case isFalse old =>
      exact records.held scope (((open_push around).mp taken).resolve_right (Ne.symm old)) name

/-- Only the root is left when no scope is open besides it. -/
theorem Records.single (records : stack.Records history) (empty : history.openScopes = []) :
    stack.scopes.size ≤ 1 := by
  have stacked := records.stacked
  rw [empty] at stacked
  exact Nat.le_of_eq stacked

/-- The scope that was opened last lies in the highest slot. -/
theorem Records.several (records : stack.Records history) {scope around : ScopeId}
    {outer : List (ScopeId × ScopeId)} (last : history.openScopes = (scope, around) :: outer) :
    1 < stack.scopes.size ∧ scope = stack.top ∧ stack.pop.1 = some around := by
  have stacked := records.stacked
  rw [last] at stacked
  obtain ⟨size, below⟩ := stacked
  have positive := below.one_le
  have atTop : scope = stack.top := by
    rw [top, ← size]
    rfl
  have several : 1 < stack.scopes.size := by omega
  have linked := records.parents scope around (by rw [last]; exact List.mem_cons_self)
  rw [atTop, pop_fst several] at linked
  injection linked with returned
  exact ⟨several, atTop, returned⟩

theorem Records.pop (records : stack.Records history) :
    stack.pop.2.Records (stack.recorded history .pop) := by
  cases last : history.openScopes with
  | nil =>
      rw [recorded, deed?, pop_of_single (records.single last)]
      exact records
  | cons entry outer =>
      obtain ⟨scope, around⟩ := entry
      obtain ⟨several, atTop, returned⟩ := records.several last
      have stacked := records.stacked
      rw [last] at stacked
      have closes : stack.recorded history .pop = .closed :: history := by
        rw [recorded, deed?, returned]
        rfl
      have left : History.openScopes (.closed :: history) = outer := by
        rw [History.openScopes, last, List.tail_cons]
      rw [closes]
      refine ⟨records.ordered.pop, ?_, fun inner within among => ?_, fun inner taken name => ?_⟩
      · have size : stack.pop.2.scopes.size = scope.slot := by
          rw [ScopeStack.pop, if_neg (Nat.not_le.mpr several), Array.size_pop, ← stacked.1]
          rfl
        rw [left, size]
        exact stacked.2
      · rw [left] at among
        have lower := ((stacked.2.mem_iff inner).mp ⟨within, among⟩).2
        have below : inner ≠ stack.top := by
          rintro rfl
          rw [← atTop] at lower
          exact Nat.lt_irrefl _ lower
        rw [parent, scopeAt_pop several below]
        exact records.parents inner within (by rw [last]; exact List.mem_cons_of_mem _ among)
      · obtain ⟨present, below⟩ := (open_pop several).mp taken
        rw [held?, scopeAt_pop several below, History.binding?_closed]
        exact records.held inner present name

/-- A deed that rebinds one name, in the stack and in the history alike. -/
theorem Records.rebound {owner : ScopeId} {name : String} {binding : Binding} {deed : Deed}
    (records : stack.Records history) (rebound : stack.Rebound next owner name binding)
    (kept : History.openScopes (deed :: history) = history.openScopes)
    (binds : ∀ scope other, History.binding? (deed :: history) scope other =
      if scope = owner ∧ other = name then some binding else history.binding? scope other) :
    next.Records (deed :: history) where
  ordered := records.ordered.rebound rebound
  stacked := by
    rw [kept, rebound.size]
    exact records.stacked
  parents := by
    intro scope around among
    rw [kept] at among
    rw [rebound.parent]
    exact records.parents scope around among
  held := by
    intro scope present other
    rw [rebound.held, binds, records.held scope (rebound.open_iff.mp present)]

theorem Records.after (records : stack.Records history) (admitted : stack.Admits call) :
    (stack.after call).Records (stack.recorded history call) := by
  cases done : stack.perform call with
  | error fault =>
      rw [after_of_error done, recorded_of_error done]
      exact records
  | ok next =>
      rw [after_of_ok done]
      cases call with
      | push around =>
          cases done
          exact records.push (admitted around rfl)
      | pop =>
          cases done
          exact records.pop
      | declare scope name value constant =>
          rw [perform] at done
          rw [recorded, deed?, done]
          refine records.rebound (rebound_of_declare done).2 rfl fun other key => ?_
          exact History.binding?_declared
      | assign scope name value =>
          rw [perform] at done
          obtain ⟨owner, old, located, -, held, rebound⟩ := rebound_of_assign done
          rw [recorded, deed?, done, ScopeStack.owner, located]
          rw [records.held owner (open_of_held? held)] at held
          refine records.rebound rebound rfl fun other key => ?_
          exact History.binding?_assigned held

theorem Records.afterCalls (records : stack.Records history)
    (inRange : stack.Throughout Admits calls) :
    (stack.afterCalls calls).Records (stack.historyAfter history calls) := by
  induction calls generalizing stack history with
  | nil => exact records
  | cons call later ih =>
      obtain ⟨admitted, inRangeLater⟩ := inRange
      exact ih (records.after admitted) inRangeLater

theorem records_bare : bare.Records [] where
  ordered := ordered_initial false
  stacked := rfl
  parents := fun _ _ among => nomatch among
  held := by
    intro scope present name
    have atZero : scope = root := congrArg ScopeId.mk (Nat.lt_one_iff.mp present)
    rw [atZero]
    rfl

theorem records_initial (named : Bool) : (initial named).Records (initialHistory named) := by
  cases named with
  | false => exact records_bare
  | true =>
      -- the standard names are declared one by one in the root of a bare stack
      have admitted : bare.Throughout Admits
          (standardNames.map fun entry => .declare root entry.1 entry.2 true) := by decide
      exact records_bare.afterCalls admitted

end ScopeStack

end CalcScript
