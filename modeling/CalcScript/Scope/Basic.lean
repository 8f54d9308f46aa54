import CalcScript.Fault

/-!
# Scopes

A scope holds the names that were declared in it, each with its value and with whether it is a
constant. Names are kept in the order in which they were declared, the latest first.
-/

set_option autoImplicit false

namespace CalcScript

structure Binding where
  value : Value
  constant : Bool
deriving DecidableEq, Repr

def Binding.assigned (binding : Binding) (value : Value) : Binding := ⟨value, binding.constant⟩

/-- The names declared in one place, and the scope around it. -/
structure Scope where
  bindings : List (String × Binding)
  parent : Option ScopeId
deriving DecidableEq, Repr

namespace Scope

def empty (parent : Option ScopeId) : Scope := ⟨[], parent⟩

def find? (scope : Scope) (name : String) : Option Binding := scope.bindings.lookup name

/-- Adds a name that the scope does not have yet. -/
def bind (scope : Scope) (name : String) (binding : Binding) : Scope :=
  { scope with bindings := (name, binding) :: scope.bindings }

/-- Gives a name that the scope has another value. -/
def assign (scope : Scope) (name : String) (value : Value) : Scope :=
  { scope with
    bindings := scope.bindings.map fun entry =>
      if entry.1 = name then (entry.1, entry.2.assigned value) else entry }

@[simp]
theorem find?_empty (parent : Option ScopeId) (name : String) :
    (empty parent).find? name = none := rfl

@[simp]
theorem parent_bind (scope : Scope) (name : String) (binding : Binding) :
    (scope.bind name binding).parent = scope.parent := rfl

@[simp]
theorem parent_assign (scope : Scope) (name : String) (value : Value) :
    (scope.assign name value).parent = scope.parent := rfl

theorem find?_bind (scope : Scope) (name other : String) (binding : Binding) :
    (scope.bind name binding).find? other =
      if other = name then some binding else scope.find? other := by
  simp only [find?, bind, List.lookup_cons]
  by_cases same : other = name
  · simp [same]
  · simp [same, beq_false_of_ne same]

/-- An assignment changes the value of its own name and nothing else. -/
theorem find?_assign (scope : Scope) (name other : String) (value : Value) :
    (scope.assign name value).find? other =
      if other = name then (scope.find? other).map (·.assigned value) else scope.find? other := by
  obtain ⟨bindings, parent⟩ := scope
  simp only [find?, assign]
  induction bindings with
  | nil => simp
  | cons entry rest ih =>
    obtain ⟨key, held⟩ := entry
    by_cases here : other = key
    · subst here
      by_cases same : other = name <;> simp [same]
    · have apart : (other == key) = false := beq_false_of_ne here
      by_cases found : key = name
      · subst found
        simpa [List.lookup_cons, apart] using ih
      · simpa [found, List.lookup_cons, apart] using ih

end Scope

end CalcScript
