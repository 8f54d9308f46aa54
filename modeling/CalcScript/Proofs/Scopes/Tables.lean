import CalcScript.Proofs.Outcomes
import CalcScript.Proofs.Scopes.Calls
import CalcScript.Scope.Tables

/-!
# Scopes and their tables

Tables show a scope if every name has the value there that the scope gives it, and is marked if it
is a constant. No name is marked that has no value. Stacks of tables and of scopes that begin alike
give the same answers and the same faults to all calls and stay alike.
-/

set_option autoImplicit false

namespace CalcScript

namespace ScopeTables

variable {tables : ScopeTables} {scope : Scope} {name : String}

/-- What a name stands for by both tables. -/
def find? (tables : ScopeTables) (name : String) : Option Binding :=
  (tables.values.lookup name).map fun value => ⟨value, name ∈ tables.constants⟩

structure Shows (tables : ScopeTables) (scope : Scope) : Prop where
  parent : tables.parent = scope.parent
  find? : ∀ name, tables.find? name = scope.find? name
  marked : ∀ name ∈ tables.constants, name ∈ tables.values

theorem find?_eq_none_iff : tables.find? name = none ↔ name ∉ tables.values := by
  rw [ScopeTables.find?, Option.map_eq_none_iff, AList.lookup_eq_none]

theorem constant_of_find? {binding : Binding} (found : tables.find? name = some binding) :
    binding.constant = decide (name ∈ tables.constants) := by
  obtain ⟨value, -, rfl⟩ := Option.map_eq_some_iff.mp found
  rfl

theorem find?_insert (tables : ScopeTables) (name other : String) (value : Value) :
    (tables.insert name value).find? other =
      if other = name then some ⟨value, name ∈ tables.constants⟩ else tables.find? other := by
  by_cases same : other = name
  · subst same
    rw [if_pos rfl, ScopeTables.find?, insert, AList.lookup_insert]
    rfl
  · rw [if_neg same, ScopeTables.find?, insert, AList.lookup_insert_ne same]
    rfl

theorem find?_mark (tables : ScopeTables) (name other : String) :
    (tables.mark name).find? other =
      if other = name then (tables.find? other).map fun old => ⟨old.value, true⟩
      else tables.find? other := by
  by_cases same : other = name
  · subst same
    simp [ScopeTables.find?, mark, Function.comp_def]
  · simp [ScopeTables.find?, mark, same]

theorem shows_empty (parent : Option ScopeId) : (empty parent).Shows (Scope.empty parent) where
  parent := rfl
  find? := fun _ => rfl
  marked := fun name among => absurd among (Finset.notMem_empty name)

namespace Shows

variable (shown : tables.Shows scope)

include shown

theorem find?_eq_none_iff : scope.find? name = none ↔ name ∉ tables.values := by
  rw [← shown.find?, ScopeTables.find?_eq_none_iff]

theorem mem_values {binding : Binding} (bound : scope.find? name = some binding) :
    name ∈ tables.values := by
  by_contra free
  cases (shown.find?_eq_none_iff.mpr free).symm.trans bound

/-- A name that is free has no mark yet, so one that is bound as no constant gets none. -/
theorem bind (free : name ∉ tables.values) (value : Value) (constant : Bool) :
    (tables.bind name value constant).Shows (scope.bind name ⟨value, constant⟩) := by
  have unmarked : name ∉ tables.constants := fun among => free (shown.marked name among)
  cases constant with
  | false =>
      constructor
      case parent => exact shown.parent
      case find? =>
        intro other
        rw [Scope.find?_bind, ← shown.find?, ScopeTables.bind, if_neg Bool.false_ne_true,
          find?_insert, decide_eq_false unmarked]
      case marked =>
        intro other among
        exact (AList.mem_insert _).mpr (.inr (shown.marked other among))
  | true =>
      constructor
      case parent => exact shown.parent
      case find? =>
        intro other
        rw [Scope.find?_bind, ← shown.find?, ScopeTables.bind, if_pos rfl, find?_mark,
          find?_insert]
        split <;> rfl
      case marked =>
        intro other among
        rcases Finset.mem_insert.mp among with rfl | before
        · exact (AList.mem_insert _).mpr (.inl rfl)
        · exact (AList.mem_insert _).mpr (.inr (shown.marked other before))

theorem insert (bound : name ∈ tables.values) (value : Value) :
    (tables.insert name value).Shows (scope.assign name value) where
  parent := shown.parent
  find? := by
    intro other
    rw [Scope.find?_assign, ← shown.find?, find?_insert]
    split
    case isTrue same =>
      subst same
      obtain ⟨old, held⟩ := Option.isSome_iff_exists.mp (AList.lookup_isSome.mpr bound)
      rw [ScopeTables.find?, held]
      rfl
    case isFalse => rfl
  marked := fun other among => (AList.mem_insert _).mpr (.inr (shown.marked other among))

end Shows

end ScopeTables

namespace TableStack

def perform (stack : TableStack) : ScopeCall → Except Fault TableStack
  | .push around => .ok (stack.push around).2
  | .pop => .ok stack.pop.2
  | .declare scope name value constant => stack.declare scope name value constant
  | .assign scope name value => stack.assign scope name value

def after (stack : TableStack) (call : ScopeCall) : TableStack :=
  match stack.perform call with
  | .ok next => next
  | .error _ => stack

def afterCalls (stack : TableStack) (calls : List ScopeCall) : TableStack :=
  calls.foldl after stack

def initial (named : Bool) : TableStack := if named then standard else bare

theorem scopeAt_eq_ok_iff {tables : TableStack} {scope : ScopeId} {found : ScopeTables} :
    tables.scopeAt scope = .ok found ↔ tables.scopes[scope.slot]? = some found := by
  rw [scopeAt]
  cases tables.scopes[scope.slot]? <;> simp

/-- Stacks of as many scopes, each shown by the tables in its slot. -/
structure Shows (tables : TableStack) (stack : ScopeStack) : Prop where
  size : tables.scopes.size = stack.scopes.size
  slots : ∀ (slot : Nat) (scope : Scope), stack.scopes[slot]? = some scope →
    ∃ found : ScopeTables, tables.scopes[slot]? = some found ∧ found.Shows scope

namespace Shows

variable {tables : TableStack} {stack : ScopeStack} (shown : tables.Shows stack)

include shown

theorem scopeAt (scope : ScopeId) :
    SameOutcome ScopeTables.Shows (tables.scopeAt scope) (stack.scopeAt scope) := by
  unfold TableStack.scopeAt ScopeStack.scopeAt
  cases there : stack.scopes[scope.slot]? with
  | some other =>
      obtain ⟨found, here, alike⟩ := shown.slots _ _ there
      rw [here]
      exact .ok alike
  | none =>
      rw [Array.getElem?_eq_none_iff, ← shown.size, ← Array.getElem?_eq_none_iff] at there
      rw [there]
      exact .error

theorem parent (scope : ScopeId) : tables.parent scope = stack.parent scope := by
  unfold TableStack.parent ScopeStack.parent
  rcases (shown.scopeAt scope).fail_or_succeed with
    ⟨fault, here, there⟩ | ⟨found, other, here, there, alike⟩
  · rw [here, there]
    rfl
  · rw [here, there]
    exact congrArg Except.ok alike.parent

theorem push (around : ScopeId) : (tables.push around).2.Shows (stack.push around).2 where
  size := by simp [TableStack.push, ScopeStack.push, shown.size]
  slots := by
    intro slot scope there
    simp only [ScopeStack.push, TableStack.push, Array.getElem?_push, shown.size] at there ⊢
    split at there
    case isTrue new =>
      cases there
      exact ⟨_, if_pos new, ScopeTables.shows_empty _⟩
    case isFalse old =>
      rw [if_neg old]
      exact shown.slots slot scope there

theorem pop : tables.pop.2.Shows stack.pop.2 := by
  unfold TableStack.pop ScopeStack.pop
  rw [shown.size]
  split
  · exact shown
  · constructor
    case size => simp [shown.size]
    case slots =>
      intro slot scope there
      simp only [Array.getElem?_pop, shown.size] at there ⊢
      split at there
      case isTrue below =>
        rw [if_pos below]
        exact shown.slots slot scope there
      case isFalse => cases there

theorem modify {scope : ScopeId} {change : ScopeTables → ScopeTables} {otherwise : Scope → Scope}
    {found : ScopeTables} {other : Scope} (here : tables.scopeAt scope = .ok found)
    (there : stack.scopeAt scope = .ok other) (alike : (change found).Shows (otherwise other)) :
    (tables.modify scope change).Shows (stack.modify scope otherwise) where
  size := by simp [TableStack.modify, ScopeStack.modify, shown.size]
  slots := by
    intro slot scopeThere there'
    simp only [ScopeStack.modify, TableStack.modify, Array.getElem?_modify] at there' ⊢
    split at there'
    case isTrue same =>
      subst same
      rw [ScopeStack.scopeAt_eq_ok_iff.mp there] at there'
      cases there'
      exact ⟨_, by rw [if_pos rfl, scopeAt_eq_ok_iff.mp here]; rfl, alike⟩
    case isFalse apart =>
      rw [if_neg apart]
      exact shown.slots slot scopeThere there'

/-- Both searches pass the same scopes. -/
theorem ownerWithin (name : String) (steps : Nat) (scope : ScopeId) :
    SameOutcome (fun owner located => owner = located.1) (tables.ownerWithin name steps scope)
      (stack.locateWithin name steps scope) := by
  induction steps generalizing scope with
  | zero => exact .error
  | succ steps ih =>
      rw [TableStack.ownerWithin, ScopeStack.locateWithin]
      rcases (shown.scopeAt scope).fail_or_succeed with
        ⟨fault, here, there⟩ | ⟨found, other, here, there, alike⟩
      · rw [here, there]
        exact .error
      · rw [here, there]
        dsimp only
        rw [alike.parent]
        cases bound : other.find? name with
        | some binding =>
            rw [if_pos (alike.mem_values bound)]
            exact .ok rfl
        | none =>
            rw [if_neg (alike.find?_eq_none_iff.mp bound)]
            cases other.parent with
            | none => exact .error
            | some around => exact ih around

/-- Both find the same scope, and there the same of the name. -/
theorem locate (scope : ScopeId) (name : String) :
    (∃ fault, tables.owner scope name = .error fault ∧ stack.locate scope name = .error fault) ∨
      ∃ owner old found other, tables.owner scope name = .ok owner ∧
        stack.locate scope name = .ok (owner, old) ∧ tables.scopeAt owner = .ok found ∧
        stack.scopeAt owner = .ok other ∧ found.Shows other ∧ other.find? name = some old := by
  have searches := shown.ownerWithin name (stack.scopes.size + 1) scope
  rw [TableStack.owner, shown.size]
  rcases searches.fail_or_succeed with
    ⟨fault, here, there⟩ | ⟨first, ⟨second, old⟩, here, there, same⟩
  · exact .inl ⟨fault, here, there⟩
  · subst same
    have held := ScopeStack.held?_of_locateWithin there
    obtain ⟨other, present⟩ := (ScopeStack.open_of_held? held).exists_scopeAt
    rw [ScopeStack.held?_of_scopeAt present] at held
    rcases (shown.scopeAt first).fail_or_succeed with
      ⟨fault, -, absent⟩ | ⟨found, again, kept, presentToo, alike⟩
    · cases absent.symm.trans present
    · cases presentToo.symm.trans present
      exact .inr ⟨first, old, found, _, here, there, kept, present, alike, held⟩

theorem owner (scope : ScopeId) (name : String) :
    tables.owner scope name = stack.owner scope name := by
  rw [ScopeStack.owner]
  rcases shown.locate scope name with
    ⟨fault, here, there⟩ | ⟨owner, old, found, other, here, there, -, -, -, -⟩
  · rw [here, there]
    rfl
  · rw [here, there]
    rfl

theorem read (scope : ScopeId) (name : String) :
    tables.read scope name = stack.read scope name := by
  rw [TableStack.read, ScopeStack.read]
  rcases shown.locate scope name with
    ⟨fault, here, there⟩ | ⟨owner, old, found, other, here, there, kept, -, alike, bound⟩
  · rw [here, there]
    rfl
  · rw [← alike.find?] at bound
    obtain ⟨value, valued, rfl⟩ := Option.map_eq_some_iff.mp bound
    simp only [here, there, kept, valued, bind, Except.bind]
    rfl

theorem isConstant (scope : ScopeId) (name : String) :
    tables.isConstant scope name = stack.isConstant scope name := by
  rw [TableStack.isConstant, ScopeStack.isConstant]
  rcases shown.locate scope name with
    ⟨fault, here, there⟩ | ⟨owner, old, found, other, here, there, kept, -, alike, bound⟩
  · rw [here, there]
    cases fault <;> rfl
  · rw [← alike.find?] at bound
    simp only [here, there, kept, Except.map, ScopeTables.constant_of_find? bound]

theorem declare (scope : ScopeId) (name : String) (value : Value) (constant : Bool) :
    SameOutcome Shows (tables.declare scope name value constant)
      (stack.declare scope name value constant) := by
  rw [TableStack.declare, ScopeStack.declare]
  rcases (shown.scopeAt scope).fail_or_succeed with
    ⟨fault, here, there⟩ | ⟨found, other, here, there, alike⟩
  · rw [here, there]
    exact .error
  · simp only [here, there, bind, Except.bind]
    by_cases valued : name ∈ found.values
    · have bound : (other.find? name).isSome = true := by
        rw [← Option.ne_none_iff_isSome, ne_eq, alike.find?_eq_none_iff]
        exact not_not_intro valued
      rw [if_pos valued, if_pos bound]
      exact .error
    · have free := alike.find?_eq_none_iff.mpr valued
      rw [if_neg valued, if_neg (by simp [free])]
      exact .ok (shown.modify here there (alike.bind valued value constant))

theorem assign (scope : ScopeId) (name : String) (value : Value) :
    SameOutcome Shows (tables.assign scope name value) (stack.assign scope name value) := by
  rw [TableStack.assign, ScopeStack.assign]
  rcases shown.locate scope name with
    ⟨fault, here, there⟩ | ⟨owner, old, found, other, here, there, kept, present, alike, bound⟩
  · rw [here, there]
    exact .error
  · have valued := alike.mem_values bound
    rw [← alike.find?] at bound
    have marked := ScopeTables.constant_of_find? bound
    simp only [here, there, kept, bind, Except.bind, marked, decide_eq_true_eq]
    split
    · exact .error
    · exact .ok (shown.modify kept present (alike.insert valued value))

theorem perform (call : ScopeCall) :
    SameOutcome Shows (tables.perform call) (stack.perform call) := by
  cases call with
  | push around => exact .ok (shown.push around)
  | pop => exact .ok shown.pop
  | declare scope name value constant => exact shown.declare scope name value constant
  | assign scope name value => exact shown.assign scope name value

theorem after (call : ScopeCall) : (tables.after call).Shows (stack.after call) := by
  rw [TableStack.after, ScopeStack.after]
  rcases (shown.perform call).fail_or_succeed with
    ⟨fault, here, there⟩ | ⟨next, other, here, there, alike⟩
  · rw [here, there]
    exact shown
  · rw [here, there]
    exact alike

theorem afterCalls (calls : List ScopeCall) :
    (tables.afterCalls calls).Shows (stack.afterCalls calls) := by
  induction calls generalizing tables stack with
  | nil => exact shown
  | cons call later ih => exact ih (shown.after call)

end Shows

theorem shows_single {tables : ScopeTables} {scope : Scope} (alike : tables.Shows scope) :
    Shows ⟨#[tables]⟩ ⟨#[scope]⟩ where
  size := rfl
  slots := by
    intro slot other there
    cases slot with
    | zero =>
        cases there
        exact ⟨tables, rfl, alike⟩
    | succ slot => cases there

theorem shows_initial (named : Bool) : (initial named).Shows (ScopeStack.initial named) := by
  have bare := ScopeTables.shows_empty none
  cases named with
  | false => exact shows_single bare
  | true =>
      have first := bare.bind (show "true" ∉ _ by decide) (.boolean true) true
      have second := first.bind (show "false" ∉ _ by decide) (.boolean false) true
      exact shows_single (second.bind (show "null" ∉ _ by decide) .null true)

end TableStack

end CalcScript
