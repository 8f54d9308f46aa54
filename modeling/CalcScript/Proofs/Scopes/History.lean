import CalcScript.Proofs.Scopes.Calls

/-!
# Histories of a scope stack

What the names of a scope stack mean is decided by what was done to it. The deeds of a host are the
calls that succeeded, and of all deeds only those since a scope was opened count for the scope: a
name is declared in it if one of them declares it there, and its value is the one written last.
-/

set_option autoImplicit false

namespace CalcScript

inductive Deed where
  | opened (scope around : ScopeId)
  | closed
  | declared (scope : ScopeId) (name : String) (value : Value) (constant : Bool)
  /-- A name was given another value in the scope that was found for it. -/
  | assigned (owner : ScopeId) (name : String) (value : Value)
deriving DecidableEq, Repr

namespace Deed

def opens (scope : ScopeId) : Deed → Bool
  | opened other _ => other = scope
  | _ => false

def declaredAs? (scope : ScopeId) (name : String) : Deed → Option Bool
  | declared other key _ constant => if scope = other ∧ name = key then some constant else none
  | _ => none

def written? (scope : ScopeId) (name : String) : Deed → Option Value
  | declared other key value _ => if scope = other ∧ name = key then some value else none
  | assigned other key value => if scope = other ∧ name = key then some value else none
  | _ => none

end Deed

/-- What was done, the latest first. -/
abbrev History := List Deed

namespace History

/-- The scopes that were opened and not closed since, each with the scope around it. The one that
was opened last comes first and is closed first. -/
def openScopes : History → List (ScopeId × ScopeId)
  | [] => []
  | .opened scope around :: earlier => (scope, around) :: openScopes earlier
  | .closed :: earlier => (openScopes earlier).tail
  | _ :: earlier => openScopes earlier

/-- What was done since a scope was opened. The root was never opened. -/
def since (history : History) (scope : ScopeId) : History :=
  history.takeWhile fun deed => !deed.opens scope

/-- Tells, of a name that is declared in a scope, whether it was declared as a constant. -/
def declaredAs? (history : History) (scope : ScopeId) (name : String) : Option Bool :=
  (history.since scope).findSome? (·.declaredAs? scope name)

def lastWritten? (history : History) (scope : ScopeId) (name : String) : Option Value :=
  (history.since scope).findSome? (·.written? scope name)

/-- The nearest scope of a chain in which a name is declared. -/
def owner? (history : History) (passed : List ScopeId) (name : String) : Option ScopeId :=
  passed.find? fun scope => (history.declaredAs? scope name).isSome

def binding? (history : History) (scope : ScopeId) (name : String) : Option Binding :=
  (history.declaredAs? scope name).bind fun constant =>
    (history.lastWritten? scope name).map (⟨·, constant⟩)

end History

section Deeds

variable {history : History} {scope other around : ScopeId} {name key : String} {value : Value}
variable {constant : Bool} {binding : Binding}

namespace History

theorem binding?_opened : binding? (.opened other around :: history) scope name =
    if other = scope then none else history.binding? scope name := by
  by_cases same : other = scope
  · simp [binding?, declaredAs?, since, Deed.opens, same]
  · simp [binding?, declaredAs?, lastWritten?, since, Deed.opens, Deed.declaredAs?,
      Deed.written?, same]

theorem binding?_closed : binding? (.closed :: history) scope name = history.binding? scope name := by
  simp [binding?, declaredAs?, lastWritten?, since, Deed.opens, Deed.declaredAs?, Deed.written?]

theorem binding?_declared :
    binding? (.declared other key value constant :: history) scope name =
      if scope = other ∧ name = key then some ⟨value, constant⟩ else history.binding? scope name := by
  by_cases same : scope = other ∧ name = key
  · simp [binding?, declaredAs?, lastWritten?, since, Deed.opens, Deed.declaredAs?,
      Deed.written?, same]
  · simp [binding?, declaredAs?, lastWritten?, since, Deed.opens, Deed.declaredAs?,
      Deed.written?, same]

theorem binding?_eq_some_iff : history.binding? scope name = some binding ↔
    history.declaredAs? scope name = some binding.constant ∧
      history.lastWritten? scope name = some binding.value := by
  obtain ⟨value, constant⟩ := binding
  simp only [binding?, Option.bind_eq_some_iff, Option.map_eq_some_iff, Binding.mk.injEq]
  constructor
  · rintro ⟨_, declared, _, written, rfl, rfl⟩
    exact ⟨declared, written⟩
  · rintro ⟨declared, written⟩
    exact ⟨constant, declared, value, written, rfl, rfl⟩

theorem binding?_assigned (bound : history.binding? other key = some binding) :
    binding? (.assigned other key value :: history) scope name =
      if scope = other ∧ name = key then some (binding.assigned value)
      else history.binding? scope name := by
  by_cases same : scope = other ∧ name = key
  · obtain ⟨rfl, rfl⟩ := same
    have declared := (binding?_eq_some_iff.mp bound).1
    rw [if_pos ⟨rfl, rfl⟩]
    refine binding?_eq_some_iff.mpr ⟨?_, ?_⟩
    · simpa [declaredAs?, since, Deed.opens, Deed.declaredAs?, Binding.assigned] using declared
    · simp [lastWritten?, since, Deed.opens, Deed.written?, Binding.assigned]
  · simp [binding?, declaredAs?, lastWritten?, since, Deed.opens, Deed.declaredAs?,
      Deed.written?, same]

/-- A declaration writes a value, so what is declared is bound. -/
theorem isSome_binding? (history : History) (scope : ScopeId) (name : String) :
    (history.binding? scope name).isSome = (history.declaredAs? scope name).isSome := by
  cases declared : history.declaredAs? scope name with
  | none => rw [binding?, declared]; rfl
  | some constant =>
      obtain ⟨deed, among, declares⟩ := List.exists_of_findSome?_eq_some declared
      have writes : (deed.written? scope name).isSome := by
        cases deed with
        | declared other key value constant =>
            have here : scope = other ∧ name = key := by
              by_cases same : scope = other ∧ name = key
              · exact same
              · rw [Deed.declaredAs?, if_neg same] at declares
                cases declares
            rw [Deed.written?, if_pos here]
            rfl
        | _ => cases declares
      have written : (history.lastWritten? scope name).isSome :=
        List.findSome?_isSome_iff.mpr ⟨deed, among, writes⟩
      rw [binding?, declared]
      simpa using written

end History

end Deeds

namespace ScopeStack

/-- What a call does if it succeeds. The root is never closed. -/
def deed? (stack : ScopeStack) : ScopeCall → Option Deed
  | .push around => some (.opened (stack.push around).1 around)
  | .pop => stack.pop.1.map fun _ => .closed
  | .declare scope name value constant =>
    (stack.declare scope name value constant).toOption.map fun _ =>
      .declared scope name value constant
  | .assign scope name value =>
    (stack.assign scope name value).toOption.bind fun _ =>
      (stack.owner scope name).toOption.map (.assigned · name value)

def recorded (stack : ScopeStack) (history : History) (call : ScopeCall) : History :=
  (stack.deed? call).toList ++ history

def historyAfter : ScopeStack → History → List ScopeCall → History
  | _, history, [] => history
  | stack, history, call :: later =>
    historyAfter (stack.after call) (stack.recorded history call) later

/-- The standard names count as declared by the host. -/
def initialHistory (named : Bool) : History :=
  if named then (standardNames.map fun entry => .declared root entry.1 entry.2 true).reverse else []

theorem deed?_of_error {stack : ScopeStack} {call : ScopeCall} {fault : Fault}
    (failed : stack.perform call = .error fault) : stack.deed? call = none := by
  cases call with
  | push around | pop => cases failed
  | declare | assign =>
      rw [perform] at failed
      rw [deed?, failed]
      rfl

theorem recorded_of_error {stack : ScopeStack} {history : History} {call : ScopeCall}
    {fault : Fault} (failed : stack.perform call = .error fault) :
    stack.recorded history call = history := by
  rw [recorded, deed?_of_error failed]
  rfl

end ScopeStack

end CalcScript
