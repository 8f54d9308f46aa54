import CalcScript.Scope.Basic

/-!
# Scope stacks

The open scopes form a stack. Each scope but the root has a parent, and a name means what the
nearest scope that declares it says, on the way from a scope over its parents. Scopes are closed in
the reverse order of their opening and the root is never closed.

A handle names a slot of the stack and not a scope for good: after its scope is closed the slot may
be taken by another. A handle whose slot is free is refused as soon as it is followed.
-/

set_option autoImplicit false

namespace CalcScript

structure ScopeStack where
  /-- The open scopes by slot; the root has the slot zero. -/
  scopes : Array Scope
deriving DecidableEq, Repr

namespace ScopeStack

def root : ScopeId := ⟨0⟩

def bare : ScopeStack := ⟨#[Scope.empty none]⟩

def standardNames : List (String × Value) :=
  [("true", .boolean true), ("false", .boolean false), ("null", .null)]

/-- A stack of a root that holds the constants `true`, `false` and `null`. -/
def standard : ScopeStack :=
  ⟨#[standardNames.foldl (fun scope entry => scope.bind entry.1 ⟨entry.2, true⟩)
    (Scope.empty none)]⟩

def scopeAt (stack : ScopeStack) (scope : ScopeId) : Except Fault Scope :=
  match stack.scopes[scope.slot]? with
  | some found => .ok found
  | none => .error (.closedScope scope)

def modify (stack : ScopeStack) (scope : ScopeId) (change : Scope → Scope) : ScopeStack :=
  ⟨stack.scopes.modify scope.slot change⟩

def parent (stack : ScopeStack) (scope : ScopeId) : Except Fault (Option ScopeId) :=
  (stack.scopeAt scope).map Scope.parent

/-- Opens a scope inside another. The parent is recorded as it is and followed only later. -/
def push (stack : ScopeStack) (parent : ScopeId) : ScopeId × ScopeStack :=
  (⟨stack.scopes.size⟩, ⟨stack.scopes.push (Scope.empty (some parent))⟩)

/-- Closes the scope opened last, and gives its parent. The root stays open. -/
def pop (stack : ScopeStack) : Option ScopeId × ScopeStack :=
  if stack.scopes.size ≤ 1 then (none, stack)
  else (stack.scopes.back?.bind Scope.parent, ⟨stack.scopes.pop⟩)

/-- Looks for a name from a scope over its parents, for at most the given number of steps. -/
def locateWithin (stack : ScopeStack) (name : String) :
    Nat → ScopeId → Except Fault (ScopeId × Binding)
  | 0, scope => .error (.endlessScope scope)
  | steps + 1, scope =>
    match stack.scopeAt scope with
    | .error fault => .error fault
    | .ok found =>
      match found.find? name, found.parent with
      | some binding, _ => .ok (scope, binding)
      | none, some parent => stack.locateWithin name steps parent
      | none, none => .error (.unresolved name)

/-- The nearest scope that binds a name, on the way from a scope over its parents, and what the name
stands for there. A way that is longer than there are scopes leads round in a circle. -/
def locate (stack : ScopeStack) (scope : ScopeId) (name : String) :
    Except Fault (ScopeId × Binding) :=
  stack.locateWithin name (stack.scopes.size + 1) scope

def owner (stack : ScopeStack) (scope : ScopeId) (name : String) : Except Fault ScopeId :=
  (stack.locate scope name).map (·.1)

def read (stack : ScopeStack) (scope : ScopeId) (name : String) : Except Fault Value :=
  (stack.locate scope name).map (·.2.value)

/-- Tells whether a name means a constant in a scope. A name without a meaning is none. -/
def isConstant (stack : ScopeStack) (scope : ScopeId) (name : String) : Except Fault Bool :=
  match stack.locate scope name with
  | .ok (_, binding) => .ok binding.constant
  | .error (.unresolved _) => .ok false
  | .error fault => .error fault

/-- Declares a name in a scope itself. Names of the scopes around it may be declared anew. -/
def declare (stack : ScopeStack) (scope : ScopeId) (name : String) (value : Value)
    (constant : Bool) : Except Fault ScopeStack :=
  match stack.scopeAt scope with
  | .error fault => .error fault
  | .ok found =>
    if (found.find? name).isSome then .error (.duplicateDeclaration name)
    else .ok (stack.modify scope (·.bind name ⟨value, constant⟩))

/-- Assigns a value to a name where it is declared, unless it is a constant there. -/
def assign (stack : ScopeStack) (scope : ScopeId) (name : String) (value : Value) :
    Except Fault ScopeStack :=
  match stack.locate scope name with
  | .error fault => .error fault
  | .ok (owner, binding) =>
    if binding.constant then .error (.constantReassignment name)
    else .ok (stack.modify owner (·.assign name value))

section Writes

variable {stack next : ScopeStack} {scope : ScopeId} {name : String} {value : Value}

theorem declare_eq_ok_iff {constant : Bool} :
    stack.declare scope name value constant = .ok next ↔
      ∃ found, stack.scopeAt scope = .ok found ∧ found.find? name = none ∧
        stack.modify scope (·.bind name ⟨value, constant⟩) = next := by
  rw [declare]
  cases here : stack.scopeAt scope with
  | error fault => simp
  | ok found => cases bound : found.find? name <;> simp [bound]

theorem assign_eq_ok_iff :
    stack.assign scope name value = .ok next ↔
      ∃ owner old, stack.locate scope name = .ok (owner, old) ∧ old.constant = false ∧
        stack.modify owner (·.assign name value) = next := by
  rw [assign]
  cases located : stack.locate scope name with
  | error fault => simp
  | ok both =>
      obtain ⟨owner, old⟩ := both
      dsimp only
      constructor
      · intro assigned
        split at assigned
        case isTrue => cases assigned
        case isFalse changeable =>
          exact ⟨owner, old, rfl, by simpa using changeable, Except.ok.inj assigned⟩
      · rintro ⟨_, _, ⟨⟩, changeable, rfl⟩
        exact if_neg (by simp [changeable])

end Writes

end ScopeStack

end CalcScript
