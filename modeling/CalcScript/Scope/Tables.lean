import Mathlib.Data.Finset.Insert
import Mathlib.Data.List.AList
import CalcScript.Scope.Stack

/-!
# Scopes in tables

The open scopes once more, each with two tables of its own: the values of its names, and the names
that are marked as constants. A name is bound if it has a value. A mark is set after the value and
is never taken away, so nothing but the order of the steps keeps the two tables together.
-/

set_option autoImplicit false

namespace CalcScript

structure ScopeTables where
  values : AList fun _ : String => Value
  constants : Finset String
  parent : Option ScopeId
deriving DecidableEq

namespace ScopeTables

def empty (parent : Option ScopeId) : ScopeTables := ⟨∅, ∅, parent⟩

def insert (tables : ScopeTables) (name : String) (value : Value) : ScopeTables :=
  { tables with values := tables.values.insert name value }

def mark (tables : ScopeTables) (name : String) : ScopeTables :=
  { tables with constants := Insert.insert name tables.constants }

def bind (tables : ScopeTables) (name : String) (value : Value) (constant : Bool) : ScopeTables :=
  let valued := tables.insert name value
  if constant then valued.mark name else valued

end ScopeTables

structure TableStack where
  /-- The open scopes by slot; the root has the slot zero. -/
  scopes : Array ScopeTables
deriving DecidableEq

namespace TableStack

def bare : TableStack := ⟨#[.empty none]⟩

/-- A stack of a root that holds the constants `true`, `false` and `null`. -/
def standard : TableStack :=
  ⟨#[ScopeStack.standardNames.foldl (fun tables entry => tables.bind entry.1 entry.2 true)
    (.empty none)]⟩

def scopeAt (stack : TableStack) (scope : ScopeId) : Except Fault ScopeTables :=
  match stack.scopes[scope.slot]? with
  | some found => .ok found
  | none => .error (.closedScope scope)

def modify (stack : TableStack) (scope : ScopeId) (change : ScopeTables → ScopeTables) :
    TableStack :=
  ⟨stack.scopes.modify scope.slot change⟩

def parent (stack : TableStack) (scope : ScopeId) : Except Fault (Option ScopeId) :=
  (stack.scopeAt scope).map ScopeTables.parent

def push (stack : TableStack) (parent : ScopeId) : ScopeId × TableStack :=
  (⟨stack.scopes.size⟩, ⟨stack.scopes.push (.empty (some parent))⟩)

def pop (stack : TableStack) : Option ScopeId × TableStack :=
  if stack.scopes.size ≤ 1 then (none, stack)
  else (stack.scopes.back?.bind ScopeTables.parent, ⟨stack.scopes.pop⟩)

/-- Looks for a scope that has a value for a name, for at most the given number of steps. -/
def ownerWithin (stack : TableStack) (name : String) : Nat → ScopeId → Except Fault ScopeId
  | 0, scope => .error (.endlessScope scope)
  | steps + 1, scope =>
    match stack.scopeAt scope with
    | .error fault => .error fault
    | .ok found =>
      if name ∈ found.values then .ok scope
      else
        match found.parent with
        | some parent => stack.ownerWithin name steps parent
        | none => .error (.unresolved name)

def owner (stack : TableStack) (scope : ScopeId) (name : String) : Except Fault ScopeId :=
  stack.ownerWithin name (stack.scopes.size + 1) scope

def read (stack : TableStack) (scope : ScopeId) (name : String) : Except Fault Value := do
  let owner ← stack.owner scope name
  let found ← stack.scopeAt owner
  match found.values.lookup name with
  | some value => .ok value
  | none => .error (.unresolved name)

/-- Tells whether a name is marked where it has its value. A name without a value is not. -/
def isConstant (stack : TableStack) (scope : ScopeId) (name : String) : Except Fault Bool :=
  match stack.owner scope name with
  | .ok owner => (stack.scopeAt owner).map fun found => name ∈ found.constants
  | .error (.unresolved _) => .ok false
  | .error fault => .error fault

def declare (stack : TableStack) (scope : ScopeId) (name : String) (value : Value)
    (constant : Bool) : Except Fault TableStack := do
  let found ← stack.scopeAt scope
  if name ∈ found.values then .error (.duplicateDeclaration name)
  else .ok (stack.modify scope (·.bind name value constant))

def assign (stack : TableStack) (scope : ScopeId) (name : String) (value : Value) :
    Except Fault TableStack := do
  let owner ← stack.owner scope name
  let found ← stack.scopeAt owner
  if name ∈ found.constants then .error (.constantReassignment name)
  else .ok (stack.modify owner (·.insert name value))

end TableStack

end CalcScript
