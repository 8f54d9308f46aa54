import CalcScript.Proofs.Session.Lookalikes
import CalcScript.Proofs.Session.Permanence

/-!
# The names that a script mentions

A script asks for the names that occur in it and for no others, and it changes at most those that it
assigns to or declares. So it does the same in sessions that agree on the names it mentions, and
whatever it does not write to stays as it was, also if it fails.
-/

set_option autoImplicit false

namespace CalcScript

def Expr.names : Expr → List String
  | number _ _ => []
  | name symbol _ => [symbol]
  | binary _ left right _ => left.names ++ right.names
  | assignment target value _ => target.names ++ value.names

/-- The names that are targets of assignments. -/
def Expr.targets : Expr → List String
  | number _ _ | name _ _ => []
  | binary _ left right _ => left.targets ++ right.targets
  | assignment target value _ => target.symbol?.toList ++ target.targets ++ value.targets

def Action.names : Action → List String
  | expression value => value.names
  | declaration _ name _ value => name :: value.toList.flatMap Expr.names

def Action.written : Action → List String
  | expression value => value.targets
  | declaration _ name _ value => name :: value.toList.flatMap Expr.targets

def Program.names (program : Program) : List String :=
  program.statements.flatMap fun statement => statement.action.names

/-- The names that a program assigns to or declares. -/
def Program.written (program : Program) : List String :=
  program.statements.flatMap fun statement => statement.action.written

/-! ## The names of steps -/

/-- The name that a step writes to. -/
def Step.written? : Step → Option String
  | write name _ | declare _ name _ => some name
  | supply _ | read _ _ | operate _ _ | check _ => none

/-- A step that works on one of some names and writes at most to one of others. -/
structure Step.Mentioned (step : Step) (names written : List String) : Prop where
  named : ∀ name ∈ step.name?, name ∈ names
  writes : ∀ name ∈ step.written?, name ∈ written

namespace Step

variable {step : Step} {names written more moreWritten : List String}

theorem Mentioned.mono (mentioned : step.Mentioned names written) (wider : names ⊆ more)
    (widerWritten : written ⊆ moreWritten) : step.Mentioned more moreWritten where
  named := fun name works => wider (mentioned.named name works)
  writes := fun name writes => widerWritten (mentioned.writes name writes)

theorem mentioned_of_nameless (nameless : step.name? = none) : step.Mentioned names written := by
  cases step with
  | supply | operate | check => exact ⟨nofun, nofun⟩
  | read | write | declare => cases nameless

theorem mentioned_write {name : String} {span : Span} (among : name ∈ names)
    (amongWritten : name ∈ written) : (write name span).Mentioned names written where
  named := by rintro _ ⟨⟩; exact among
  writes := by rintro _ ⟨⟩; exact amongWritten

end Step

theorem Expr.symbol_mem_names {tree : Expr} {name : String} (symbol : tree.symbol? = some name) :
    name ∈ tree.names := by
  cases tree with
  | name other span =>
      cases symbol
      exact List.mem_singleton_self name
  | number | binary | assignment => cases symbol

theorem Expr.mentioned {tree : Expr} {step : Step} (among : step ∈ tree.steps) :
    step.Mentioned tree.names tree.targets := by
  induction tree with
  | number value span =>
      cases List.mem_singleton.mp among
      exact Step.mentioned_of_nameless rfl
  | name symbol span =>
      cases List.mem_singleton.mp among
      exact ⟨by simp [Step.name?, Expr.names], nofun⟩
  | binary operator left right span leftIH rightIH =>
      simp only [Expr.steps, List.mem_append, List.mem_singleton] at among
      obtain (inLeft | inRight) | rfl := among
      · exact (leftIH inLeft).mono (List.subset_append_left _ _) (List.subset_append_left _ _)
      · exact (rightIH inRight).mono (List.subset_append_right _ _) (List.subset_append_right _ _)
      · exact Step.mentioned_of_nameless rfl
  | assignment target value span _ valueIH =>
      simp only [Expr.steps, List.mem_append, List.mem_cons, List.mem_map,
        Option.mem_toList] at among
      obtain (rfl | inValue) | ⟨name, symbol, rfl⟩ := among
      · exact Step.mentioned_of_nameless rfl
      · exact (valueIH inValue).mono (List.subset_append_right _ _) (List.subset_append_right _ _)
      · have written : name ∈ (Expr.assignment target value span).targets := by
          simp [Expr.targets, symbol]
        exact Step.mentioned_write (List.mem_append_left _ (Expr.symbol_mem_names symbol)) written

theorem Action.mentioned {action : Action} {step : Step} (among : step ∈ action.steps) :
    step.Mentioned action.names action.written := by
  cases action with
  | expression value => exact Expr.mentioned among
  | declaration constant name nameSpan value =>
      have here : (Step.declare constant name nameSpan).Mentioned
          (Action.declaration constant name nameSpan value).names
          (Action.declaration constant name nameSpan value).written :=
        ⟨by simp [Step.name?, Action.names], by simp [Step.written?, Action.written]⟩
      cases value with
      | none =>
          simp only [Action.steps, List.mem_cons, List.not_mem_nil, or_false] at among
          obtain rfl | rfl := among
          · exact Step.mentioned_of_nameless rfl
          · exact here
      | some value =>
          simp only [Action.steps, List.mem_append, List.mem_singleton] at among
          obtain inValue | rfl := among
          · refine (Expr.mentioned inValue).mono ?_ ?_ <;> simp [Action.names, Action.written]
          · exact here

theorem Program.mentioned {program : Program} {step : Step} (among : step ∈ program.steps) :
    step.Mentioned program.names program.written := by
  obtain ⟨statement, inProgram, inStatement⟩ := List.mem_flatMap.mp among
  refine (Action.mentioned inStatement).mono (fun name here => ?_) fun name here => ?_ <;>
    exact List.mem_flatMap.mpr ⟨statement, inProgram, here⟩

/-! ## Names that are not written -/

def Write.name : Write → String
  | declared name _ _ | assigned name _ => name

section Writes

variable {stack next : ScopeStack} {name : String}

theorem ScopeStack.RootAlone.written_elsewhere (alone : stack.RootAlone) {write : Write}
    (done : stack.written write = .ok next) (elsewhere : name ≠ write.name) :
    next.binding? name = stack.binding? name := by
  cases write with
  | declared other value constant =>
      obtain ⟨-, -, bindings⟩ := alone.declare done
      exact (bindings name).trans (if_neg elsewhere)
  | assigned other value =>
      obtain ⟨-, old, -, -, bindings⟩ := alone.assign done
      exact (bindings name).trans (if_neg elsewhere)

theorem ScopeStack.RootAlone.replay_elsewhere (alone : stack.RootAlone) {writes : List Write}
    (done : stack.replay writes = .ok next) (elsewhere : ∀ write ∈ writes, name ≠ write.name) :
    next.binding? name = stack.binding? name := by
  induction writes generalizing stack with
  | nil =>
      cases done
      rfl
  | cons write later ih =>
      rw [replay_cons] at done
      obtain ⟨middle, wrote, doneLater⟩ := exists_of_bind_eq_ok done
      obtain ⟨here, beyond⟩ := List.forall_mem_cons.mp elsewhere
      rw [ih (alone.written wrote).1 doneLater beyond, alone.written_elsewhere wrote here]

theorem Step.written?_of_write? {step : Step} {machine : Machine} {write : Write}
    (writes : step.write? machine = some write) : step.written? = some write.name := by
  obtain ⟨operands, stack⟩ := machine
  cases step with
  | supply | read | operate | check => cases writes
  | write name span | declare constant name span =>
      cases operands with
      | nil => cases writes
      | cons value operands =>
          cases writes
          rfl

theorem exists_written?_of_mem {steps : List Step} {machine : Machine} {write : Write}
    (among : write ∈ performedWrites steps machine) :
    ∃ step ∈ steps, step.written? = some write.name := by
  induction steps generalizing machine with
  | nil => cases among
  | cons step later ih =>
      rw [performedWrites] at among
      split at among
      · rcases List.mem_append.mp among with here | beyond
        · exact ⟨step, List.mem_cons_self, Step.written?_of_write? (Option.mem_toList.mp here)⟩
        · obtain ⟨other, inLater, writes⟩ := ih beyond
          exact ⟨other, List.mem_cons_of_mem step inLater, writes⟩
      · cases among

theorem Session.runProgram_elsewhere {session : Session} (alone : session.stack.RootAlone)
    {program : Program} (unwritten : name ∉ program.written) :
    (session.runProgram program).2.stack.binding? name = session.stack.binding? name := by
  have done := replay_performedWrites program.steps ⟨[.null], session.stack⟩
  rw [session.runProgram_snd program]
  refine alone.replay_elsewhere done fun write among same => ?_
  obtain ⟨step, inProgram, writes⟩ := exists_written?_of_mem among
  exact unwritten (same ▸ (Program.mentioned inProgram).writes write.name writes)

end Writes

/-! ## Sessions that agree -/

/-- The root is the only scope of both stacks, and some names stand for the same in both. -/
structure ScopeStack.AgreeOn (names : List String) (first second : ScopeStack) : Prop where
  alone : first.RootAlone
  aloneToo : second.RootAlone
  bindings : ∀ name ∈ names, first.binding? name = second.binding? name

theorem ScopeStack.agreeOn_iff {names : List String} {first second : ScopeStack} :
    first.AgreeOn names second ↔ first.LooksLike id (· ∈ names) second := by
  constructor
  · intro agree
    refine ⟨agree.alone, agree.aloneToo, fun name among => ?_⟩
    rw [agree.bindings name among]
  · intro looks
    refine ⟨looks.alone, looks.aloneToo, fun name among => ?_⟩
    obtain ⟨missing, missingToo⟩ | ⟨old, oldToo, bound, boundToo, constant, value⟩ :=
      looks.missing_or_bound among
    · rw [missing, missingToo]
    · obtain ⟨value, constant⟩ := old
      obtain ⟨valueToo, constantToo⟩ := oldToo
      cases constant
      cases value
      rw [bound, boundToo]

theorem Operator.respects_id (operator : Operator) : operator.Respects id := by
  intro left right leftToo rightToo sameLeft sameRight
  cases sameLeft
  cases sameRight
  cases operator.apply left right with
  | ok result => exact .ok rfl
  | error fault => exact .error

/-- A program does the same in two sessions that agree on the names that it mentions, and they agree
on these names again. It leaves every name as it is that it neither assigns to nor declares. -/
theorem Session.runProgram_of_agreement (program : Program) {first second : Session}
    (agree : first.stack.AgreeOn program.names second.stack) :
    (first.runProgram program).1 = (second.runProgram program).1 ∧
      (first.runProgram program).2.stack.AgreeOn program.names
        (second.runProgram program).2.stack ∧
      ∀ name, name ∉ program.written →
        (first.runProgram program).2.stack.binding? name = first.stack.binding? name ∧
          (second.runProgram program).2.stack.binding? name = second.stack.binding? name := by
  have same : ∀ step ∈ program.steps, ∀ {one two : Machine},
      one.LooksLike id (· ∈ program.names) two →
        SameOutcome (Machine.LooksLike id (· ∈ program.names)) (step.perform one)
          (step.perform two) :=
    fun step among _ _ looks => Step.sameOutcome (Program.mentioned among).named
      (fun operator _ _ => operator.respects_id) looks
  have start : Machine.LooksLike id (· ∈ program.names) ⟨[.null], first.stack⟩
      ⟨[.null], second.stack⟩ := ⟨rfl, ScopeStack.agreeOn_iff.mp agree⟩
  have together := goTogether (fun step among _ _ _ _ looks done doneToo =>
    (same step among looks).related done doneToo) start
  have unwritten : ∀ name, name ∉ program.written →
      (first.runProgram program).2.stack.binding? name = first.stack.binding? name ∧
        (second.runProgram program).2.stack.binding? name = second.stack.binding? name :=
    fun name apart => ⟨runProgram_elsewhere agree.alone apart,
      runProgram_elsewhere agree.aloneToo apart⟩
  cases together with
  | through performs performsToo looks =>
      have ran := runProgram_of_performs performs
      have ranToo := runProgram_of_performs performsToo
      have operands := looks.operands
      rw [List.map_id, List.map_id] at operands
      refine ⟨?_, ?_, unwritten⟩
      · rw [ran, ranToo, operands]
      · rw [ran, ranToo]
        exact ScopeStack.agreeOn_iff.mpr looks.scopes
  | parted split performs performsToo looks failed =>
      have among := split ▸ List.mem_append_right _ List.mem_cons_self
      obtain ⟨fails, failsToo⟩ := (same _ among looks).failed failed
      have ran := runProgram_of_failed split performs fails
      have ranToo := runProgram_of_failed split performsToo failsToo
      refine ⟨?_, ?_, unwritten⟩
      · rw [ran, ranToo]
      · rw [ran, ranToo]
        exact ScopeStack.agreeOn_iff.mpr looks.scopes

/-- A name of the first session that the second one lacks, and an assignment in a declaration that
fails because its own name is taken. -/
theorem Session.runProgram_of_agreement_unmentioned :
    ∃ (program : Program) (first second : Session),
      program = ⟨[⟨.declaration true "a" .unplaced
        (some (.assignment (.name "b" .unplaced) (.name "a" .unplaced) .unplaced)), .unplaced⟩]⟩ ∧
      first.stack.binding? "c" = some ⟨.null, false⟩ ∧ second.stack.binding? "c" = none ∧
      first.stack.AgreeOn program.names second.stack ∧
      (first.runProgram program).1 = (second.runProgram program).1 ∧
      (first.runProgram program).2.stack.AgreeOn program.names
        (second.runProgram program).2.stack ∧
      (first.runProgram program).2.stack.binding? "c" = some ⟨.null, false⟩ := by
  let shared := ((Scope.empty none).bind "a" ⟨.boolean true, true⟩).bind "b" ⟨.null, false⟩
  let first : Session := ⟨⟨#[shared.bind "c" ⟨.null, false⟩]⟩⟩
  let second : Session := ⟨⟨#[shared]⟩⟩
  let program : Program := ⟨[⟨.declaration true "a" .unplaced
    (some (.assignment (.name "b" .unplaced) (.name "a" .unplaced) .unplaced)), .unplaced⟩]⟩
  have agree : first.stack.AgreeOn program.names second.stack :=
    ⟨⟨_, rfl, rfl⟩, ⟨_, rfl, rfl⟩, by decide⟩
  obtain ⟨same, agreeAfter, unwritten⟩ := runProgram_of_agreement program agree
  have kept := (unwritten "c" (by decide)).1
  exact ⟨program, first, second, rfl, by decide, by decide, agree, same, agreeAfter, kept⟩

end CalcScript
