import CalcScript.Proofs.Session.Root
import CalcScript.Proofs.Session.Writes

/-!
# Permanent names

A name that was declared once stays declared, as a constant or not as it was declared, and a
constant keeps the value of its declaration. So no name can be declared a second time.
-/

set_option autoImplicit false

namespace CalcScript

/-- What may become of a name: its value may change unless it is a constant. -/
structure Binding.Keeps (old new : Binding) : Prop where
  constant : new.constant = old.constant
  value : old.constant = true → new.value = old.value

theorem Binding.Keeps.refl (binding : Binding) : binding.Keeps binding := ⟨rfl, fun _ => rfl⟩

theorem Binding.Keeps.trans {first second third : Binding} (earlier : first.Keeps second)
    (later : second.Keeps third) : first.Keeps third where
  constant := later.constant.trans earlier.constant
  value := fun constant =>
    (later.value (earlier.constant.trans constant)).trans (earlier.value constant)

namespace ScopeStack

/-- Every name of the first stack has kept its place in the second. -/
def Keeps (before after : ScopeStack) : Prop :=
  ∀ name old, before.binding? name = some old →
    ∃ new, after.binding? name = some new ∧ old.Keeps new

theorem Keeps.refl (stack : ScopeStack) : stack.Keeps stack :=
  fun _ old bound => ⟨old, bound, .refl old⟩

theorem Keeps.trans {first second third : ScopeStack} (earlier : first.Keeps second)
    (later : second.Keeps third) : first.Keeps third := by
  intro name old bound
  obtain ⟨middle, boundMiddle, keptMiddle⟩ := earlier name old bound
  obtain ⟨new, boundNew, keptNew⟩ := later name middle boundMiddle
  exact ⟨new, boundNew, keptMiddle.trans keptNew⟩

variable {stack next after : ScopeStack}

/-- No write touches a constant or takes a name away. -/
theorem RootAlone.written (alone : stack.RootAlone) {write : Write}
    (done : stack.written write = .ok next) : next.RootAlone ∧ stack.Keeps next := by
  cases write with
  | declared name value constant =>
      obtain ⟨aloneNext, free, bindings⟩ := alone.declare done
      refine ⟨aloneNext, fun other old bound => ⟨old, ?_, .refl old⟩⟩
      have apart : other ≠ name := by
        rintro rfl
        cases free.symm.trans bound
      rw [bindings, if_neg apart, bound]
  | assigned name value =>
      obtain ⟨aloneNext, held, heldBound, changeable, bindings⟩ := alone.assign done
      refine ⟨aloneNext, fun other old bound => ?_⟩
      by_cases same : other = name
      · subst same
        cases heldBound.symm.trans bound
        refine ⟨held.assigned value, by rw [bindings, if_pos rfl], rfl, fun constant => ?_⟩
        cases changeable.symm.trans constant
      · exact ⟨old, by rw [bindings, if_neg same, bound], .refl old⟩

theorem RootAlone.replay (alone : stack.RootAlone) {writes : List Write}
    (done : stack.replay writes = .ok after) : after.RootAlone ∧ stack.Keeps after := by
  induction writes generalizing stack with
  | nil =>
      cases done
      exact ⟨alone, .refl _⟩
  | cons write later ih =>
      rw [replay_cons] at done
      obtain ⟨next, wrote, doneLater⟩ := exists_of_bind_eq_ok done
      obtain ⟨aloneNext, kept⟩ := alone.written wrote
      obtain ⟨aloneAfter, keptLater⟩ := ih aloneNext doneLater
      exact ⟨aloneAfter, kept.trans keptLater⟩

/-- A declaration holds good in everything that comes after it. -/
theorem RootAlone.declared (alone : stack.RootAlone) {writes : List Write}
    (done : stack.replay writes = .ok after) {name : String} {value : Value} {constant : Bool}
    (among : .declared name value constant ∈ writes) :
    ∃ new, after.binding? name = some new ∧ Binding.Keeps ⟨value, constant⟩ new := by
  obtain ⟨earlier, later, rfl⟩ := List.append_of_mem among
  obtain ⟨before, doneBefore, doneLater⟩ := replay_append_eq_ok_iff.mp done
  rw [replay_cons] at doneLater
  obtain ⟨next, doneNext, doneAfter⟩ := exists_of_bind_eq_ok doneLater
  obtain ⟨aloneNext, -, bindings⟩ := (alone.replay doneBefore).1.declare doneNext
  exact (aloneNext.replay doneAfter).2 name _ (by rw [bindings, if_pos rfl])

/-- A name is free when it is declared, and is never free again. -/
theorem RootAlone.nodup_declared (alone : stack.RootAlone) {writes : List Write}
    (done : stack.replay writes = .ok after) :
    (writes.filterMap Write.declaredName?).Nodup ∧
      ∀ name ∈ writes.filterMap Write.declaredName?, stack.binding? name = none := by
  induction writes generalizing stack with
  | nil => exact ⟨.nil, fun name among => by cases among⟩
  | cons write later ih =>
      rw [replay_cons] at done
      obtain ⟨next, wrote, doneLater⟩ := exists_of_bind_eq_ok done
      obtain ⟨aloneNext, kept⟩ := alone.written wrote
      obtain ⟨distinct, free⟩ := ih aloneNext doneLater
      -- a name that is free after the write was free before it
      have freeBefore : ∀ name ∈ later.filterMap Write.declaredName?,
          stack.binding? name = none := by
        intro name among
        cases bound : stack.binding? name with
        | none => rfl
        | some old =>
            obtain ⟨new, boundNew, -⟩ := kept name old bound
            cases (free name among).symm.trans boundNew
      cases write with
      | assigned name value => exact ⟨distinct, freeBefore⟩
      | declared name value constant =>
          obtain ⟨-, missing, bindings⟩ := alone.declare wrote
          have fresh : name ∉ later.filterMap Write.declaredName? := by
            intro among
            have taken := free name among
            rw [bindings, if_pos rfl] at taken
            cases taken
          refine ⟨List.nodup_cons.mpr ⟨fresh, distinct⟩, ?_⟩
          intro other among
          rcases List.mem_cons.mp among with rfl | among
          · exact missing
          · exact freeBefore other among

/-- The names that a write binds besides those that were bound before. -/
theorem RootAlone.isSome_written (alone : stack.RootAlone) {write : Write}
    (done : stack.written write = .ok next) (name : String) :
    (next.binding? name).isSome ↔
      (stack.binding? name).isSome ∨ write.declaredName? = some name := by
  cases write with
  | declared declared value constant =>
      obtain ⟨-, -, bindings⟩ := alone.declare done
      rw [bindings, Write.declaredName?]
      by_cases same : name = declared
      · simp [same]
      · simp [same, Ne.symm same]
  | assigned assigned value =>
      obtain ⟨-, old, bound, -, bindings⟩ := alone.assign done
      rw [bindings, Write.declaredName?]
      by_cases same : name = assigned
      · simp [same, bound]
      · simp [same]

theorem RootAlone.isSome_replay (alone : stack.RootAlone) {writes : List Write}
    (done : stack.replay writes = .ok after) (name : String) :
    (after.binding? name).isSome ↔
      (stack.binding? name).isSome ∨ name ∈ writes.filterMap Write.declaredName? := by
  induction writes generalizing stack with
  | nil =>
      cases done
      simp
  | cons write later ih =>
      rw [replay_cons] at done
      obtain ⟨next, wrote, doneLater⟩ := exists_of_bind_eq_ok done
      rw [ih (alone.written wrote).1 doneLater, alone.isSome_written wrote, or_assoc]
      cases declared : write.declaredName? with
      | none => simp [declared]
      | some fresh => simp [declared, @eq_comm _ fresh name]

theorem standard_rootAlone : standard.RootAlone := ⟨_, rfl, rfl⟩

theorem standard_binding? : ∀ entry ∈ standardNames,
    standard.binding? entry.1 = some ⟨entry.2, true⟩ := by
  decide

theorem isSome_standard_iff (name : String) :
    (standard.binding? name).isSome ↔ name ∈ standardNames.map (·.1) := by
  change (binding? ⟨#[(((Scope.empty none).bind "true" _).bind "false" _).bind "null" _]⟩
    name).isSome ↔ name ∈ ["true", "false", "null"]
  rw [binding?_root rfl, Scope.find?_bind, Scope.find?_bind, Scope.find?_bind, Scope.find?_empty]
  by_cases isNull : name = "null"
  · simp [isNull]
  · by_cases isFalse : name = "false"
    · simp [isFalse]
    · by_cases isTrue : name = "true" <;> simp [isNull, isFalse, isTrue]

end ScopeStack

/-- Whatever is asked of a session, its scopes are the result of the writes that succeeded. No name
is declared twice in them, the standard names included. At every moment, which is to say after some
of the writes, the root is the only scope and has the standard names and those declared so far, all
of them stand for what they were declared as, and names of earlier moments have stayed. -/
theorem Session.names_permanent (calls : List Call) :
    ScopeStack.standard.replay (start.writes calls) = .ok (start.afterCalls calls).stack ∧
      (∀ first second, calls = first ++ second → start.writes first <+: start.writes calls) ∧
      (ScopeStack.standardNames.map (·.1) ++
        (start.writes calls).filterMap Write.declaredName?).Nodup ∧
      ∀ writes, writes <+: start.writes calls →
        ∃ stack, ScopeStack.standard.replay writes = .ok stack ∧ stack.RootAlone ∧
          (∀ name, (stack.binding? name).isSome ↔
            name ∈ ScopeStack.standardNames.map (·.1) ++
              writes.filterMap Write.declaredName?) ∧
          (∀ entry ∈ ScopeStack.standardNames, stack.binding? entry.1 = some ⟨entry.2, true⟩) ∧
          (∀ name value constant, .declared name value constant ∈ writes →
            ∃ new, stack.binding? name = some new ∧ Binding.Keeps ⟨value, constant⟩ new) ∧
          ∀ earlier, earlier <+: writes →
            ∃ before, ScopeStack.standard.replay earlier = .ok before ∧ before.Keeps stack := by
  have alone := ScopeStack.standard_rootAlone
  have done : ScopeStack.standard.replay (start.writes calls) = _ := start.replay_writes calls
  refine ⟨done, ?_, ?_, ?_⟩
  · rintro first second rfl
    exact ⟨_, (start.writes_append first second).symm⟩
  · obtain ⟨distinct, free⟩ := alone.nodup_declared done
    refine List.nodup_append.mpr ⟨by decide, distinct, fun name standard other declared => ?_⟩
    rintro rfl
    obtain ⟨entry, among, rfl⟩ := List.mem_map.mp standard
    cases (free entry.1 declared).symm.trans (ScopeStack.standard_binding? entry among)
  · rintro writes ⟨rest, split⟩
    rw [← split] at done
    obtain ⟨stack, doneWrites, -⟩ := ScopeStack.replay_append_eq_ok_iff.mp done
    obtain ⟨aloneStack, kept⟩ := alone.replay doneWrites
    refine ⟨stack, doneWrites, aloneStack, fun name => ?_, fun entry among => ?_,
      fun name value constant among => alone.declared doneWrites among, ?_⟩
    · rw [alone.isSome_replay doneWrites, ScopeStack.isSome_standard_iff, List.mem_append]
    · obtain ⟨⟨value, constant⟩, bound, sameConstant, sameValue⟩ :=
        kept entry.1 _ (ScopeStack.standard_binding? entry among)
      cases sameConstant
      cases sameValue rfl
      exact bound
    · rintro earlier ⟨later, rfl⟩
      obtain ⟨before, doneEarlier, doneLater⟩ := ScopeStack.replay_append_eq_ok_iff.mp doneWrites
      exact ⟨before, doneEarlier, ((alone.replay doneEarlier).1.replay doneLater).2⟩

end CalcScript
