import CalcScript.Proofs.Grammar.Returns
import CalcScript.Recursion

/-!
# How much room recursion needs

Printing a tree takes as much room as the tree is high, no more and no less, and evaluating it never
takes more than that. The trees of a program that was parsed are within the limit on heights, so all
recursion on the way from tokens to a value is bounded, whatever the tokens are.
-/

set_option autoImplicit false

namespace CalcScript

open Recursing Evaluation

namespace Recursing

variable {α β : Type}

theorem of_bind (first : Evaluation α) (second : α → Evaluation β) :
    (of first >>= fun value => of (second value)) = of (first >>= second) := by
  funext stack
  change (of first stack).bind
    (fun pair => ExceptT.bindCont (fun value => of (second value)) pair.1 pair.2) = _
  unfold of
  cases done : first stack with
  | ok value middle => rw [bind_of_ok done]; rfl
  | error error middle => rw [bind_of_error done]; rfl

end Recursing

namespace Expr

/-- With room for a compound there is room for each of its parts once the compound is entered. -/
theorem exists_room {first second room : Nat} (enough : 1 + max first second ≤ room) :
    ∃ less, room = less + 1 ∧ first ≤ less ∧ second ≤ less :=
  ⟨room - 1, by omega, by omega, by omega⟩

theorem printedIn_of_height_le {tree : Expr} {room : Nat} (enough : tree.height ≤ room) :
    tree.printedIn room = some tree.printed := by
  induction tree generalizing room with
  | number | name =>
      obtain ⟨room, rfl⟩ := Nat.exists_eq_add_of_le' enough
      rfl
  | binary operator left right span leftIH rightIH =>
      obtain ⟨room, rfl, ofLeft, ofRight⟩ := exists_room enough
      rw [printedIn, leftIH ofLeft, rightIH ofRight]
      rfl
  | assignment target value span targetIH valueIH =>
      obtain ⟨room, rfl, ofTarget, ofValue⟩ := exists_room enough
      rw [printedIn, targetIH ofTarget, valueIH ofValue]
      rfl

theorem height_le_of_printedIn {tree : Expr} {room : Nat} {text : String}
    (printed : tree.printedIn room = some text) : tree.height ≤ room := by
  induction tree generalizing room text with
  | number | name =>
      cases room with
      | zero => cases printed
      | succ room => exact Nat.succ_le_succ (Nat.zero_le room)
  | binary operator left right span leftIH rightIH =>
      cases room with
      | zero => cases printed
      | succ room =>
          simp only [printedIn, Option.bind_eq_bind, Option.bind_eq_some_iff] at printed
          obtain ⟨leftText, ofLeft, rightText, ofRight, -⟩ := printed
          rw [height, Nat.add_comm]
          exact Nat.succ_le_succ (Nat.max_le.mpr ⟨leftIH ofLeft, rightIH ofRight⟩)
  | assignment target value span targetIH valueIH =>
      cases room with
      | zero => cases printed
      | succ room =>
          simp only [printedIn, Option.bind_eq_bind, Option.bind_eq_some_iff] at printed
          obtain ⟨targetText, ofTarget, valueText, ofValue, -⟩ := printed
          rw [height, Nat.add_comm]
          exact Nat.succ_le_succ (Nat.max_le.mpr ⟨targetIH ofTarget, valueIH ofValue⟩)

/-- Printing needs room for as many calls as the tree is high, and nothing less will do. -/
theorem printedIn_eq_some_iff {tree : Expr} {room : Nat} {text : String} :
    tree.printedIn room = some text ↔ tree.height ≤ room ∧ tree.printed = text := by
  constructor
  · intro printed
    have enough := height_le_of_printedIn printed
    exact ⟨enough, Option.some.inj ((printedIn_of_height_le enough).symm.trans printed)⟩
  · rintro ⟨enough, rfl⟩
    exact printedIn_of_height_le enough

theorem evaluateIn_of_height_le {tree : Expr} {room : Nat} (enough : tree.height ≤ room) :
    tree.evaluateIn room = of tree.evaluate := by
  induction tree generalizing room with
  | number | name =>
      obtain ⟨room, rfl⟩ := Nat.exists_eq_add_of_le' enough
      rfl
  | binary operator left right span leftIH rightIH =>
      obtain ⟨room, rfl, ofLeft, ofRight⟩ := exists_room enough
      rw [evaluateIn, leftIH ofLeft, rightIH ofRight]
      simp only [of_bind]
      rfl
  | assignment target value span targetIH valueIH =>
      obtain ⟨room, rfl, ofTarget, ofValue⟩ := exists_room enough
      rw [evaluateIn, evaluate, valueIH ofValue, printedIn_of_height_le ofTarget]
      cases target.symbol? with
      | some symbol => exact of_bind value.evaluate fun assigned => assignName symbol assigned span
      | none => rfl

end Expr

/-! ## Programs -/

/-- The value of an action, if it has one, is no higher than the room. -/
def Action.FitsIn (room : Nat) : Action → Prop
  | expression value => value.height ≤ room
  | declaration _ _ _ value => ∀ tree ∈ value, tree.height ≤ room

theorem Action.FitsIn.printedIn_eq {room : Nat} {action : Action} (fits : action.FitsIn room) :
    action.printedIn room = some action.printed := by
  cases action with
  | expression value => exact Expr.printedIn_of_height_le fits
  | declaration constant name span value =>
      cases value with
      | none => rfl
      | some value =>
          rw [printedIn, Expr.printedIn_of_height_le (fits value rfl)]
          rfl

theorem Action.FitsIn.evaluateIn_eq {room : Nat} {action : Action} (fits : action.FitsIn room) :
    action.evaluateIn room = of action.evaluate := by
  cases action with
  | expression value => exact Expr.evaluateIn_of_height_le fits
  | declaration constant name span value =>
      cases value with
      | none => rfl
      | some value =>
          rw [evaluateIn, Expr.evaluateIn_of_height_le (fits value rfl)]
          exact of_bind value.evaluate fun declared => declareName name declared constant span

section Statements

variable {room : Nat} {statements : List Statement}
  (fits : ∀ statement ∈ statements, statement.action.FitsIn room)

include fits

theorem Program.printedIn_eq :
    Program.printedIn room ⟨statements⟩ = some (Program.printed ⟨statements⟩) := by
  have lines : (statements.mapM fun statement => statement.action.printedIn room) =
      some (statements.map Statement.printed) := by
    induction statements with
    | nil => rfl
    | cons first rest ih =>
        obtain ⟨ofFirst, ofRest⟩ := List.forall_mem_cons.mp fits
        rw [List.mapM_cons, ofFirst.printedIn_eq, ih ofRest]
        rfl
  rw [printedIn, lines]
  rfl

theorem Program.evaluateIn_eq :
    Program.evaluateIn room ⟨statements⟩ = of (Program.evaluate ⟨statements⟩) := by
  unfold evaluateIn evaluate
  generalize Value.null = value
  induction statements generalizing value with
  | nil => rfl
  | cons first rest ih =>
      obtain ⟨ofFirst, ofRest⟩ := List.forall_mem_cons.mp fits
      rw [List.foldlM_cons, List.foldlM_cons, ofFirst.evaluateIn_eq, ← of_bind]
      exact congrArg (of first.evaluate >>= ·) (funext fun result => ih ofRest result)

end Statements

namespace Grammar

variable {tokens : List Token}

theorem DerivesAction.fitsIn {action : Action} (derived : DerivesAction Limited tokens action) :
    action.FitsIn Parser.maxHeight := by
  cases derived with
  | bare => exact nofun
  | initialized _ _ _ value _ =>
      intro tree among
      cases among
      exact value.fits
  | expression value => exact value.fits

theorem DerivesStatements.fitsIn {statements : List Statement}
    (derived : DerivesStatements Limited tokens statements) :
    ∀ statement ∈ statements, statement.action.FitsIn Parser.maxHeight := by
  induction derived with
  | nil => exact List.forall_mem_nil _
  | last value => exact List.forall_mem_singleton.mpr value.fits
  | cons first _ ih => exact List.forall_mem_cons.mpr ⟨first.fitsIn, ih⟩

theorem ofTokens_fitsIn {program : Program} (parsed : Program.ofTokens tokens = .ok program) :
    ∀ statement ∈ program.statements, statement.action.FitsIn Parser.maxHeight :=
  (statements_eq_ok_iff.mp (Program.ofTokens_eq_ok_iff.mp parsed)).fitsIn

end Grammar

/-! ## All recursion together -/

/-- What the limits mean for a moment of parsing. -/
structure Moment.WithinLimits (moment : Moment) : Prop where
  counted : moment.calls = moment.descent.nesting
  few : moment.calls ≤ 128
  exact : ∀ tree, moment.task = .returned (.ok tree) → tree.Exact
  low : ∀ tree, moment.task = .returned (.ok tree) → tree.height ≤ 1024
  /-- A call returns to the frames it was made from, with the count as it was. If it is let in, it
  is active at every moment before that. -/
  returns : moment.task = .call .expression → ∃ outcome stopped moments,
    stopped.nesting = moment.descent.nesting ∧
    moment.later (moments + 1) = ⟨.returned outcome, moment.frames, stopped, moment.body⟩ ∧
    ∀ between < moments, .active :: moment.frames <:+ (moment.later (between + 1)).frames

theorem Moment.Sound.withinLimits {moment : Moment} (sound : moment.Sound) :
    moment.WithinLimits where
  counted := sound.ready.levels
  few := Nat.le_trans (Nat.le_of_eq sound.ready.levels) sound.ready.few
  exact tree task := by
    have fit := sound.task
    rw [task] at fit
    exact fit.exact
  low tree task := by
    have fit := sound.task
    rw [task] at fit
    exact fit.fits
  returns task := by
    obtain ⟨_, frames, descent, body⟩ := moment
    cases task
    have few : descent.nesting + (128 - descent.nesting) = 128 :=
      Nat.add_sub_cancel' sound.ready.few
    exact exists_return few frames body

/-- Whatever the tokens, parsing goes from moment to moment within the limits until it ends as the
parser does, and a program that it ends with is printed and run with room for 1024 calls. -/
theorem Moment.recursion_bounded (tokens : List Token) :
    (∀ moments, ((start tokens).later moments).WithinLimits) ∧
    (∃ moments, ((start tokens).later moments).task = .finished (Program.ofTokens tokens)) ∧
    ∀ program, Program.ofTokens tokens = .ok program →
      program.printedIn 1024 = some program.printed ∧
      program.evaluateIn 1024 = Recursing.of program.evaluate := by
  refine ⟨fun moments => ((sound_start tokens).later moments).withinLimits,
    exists_later_finished tokens, fun program parsed => ?_⟩
  have fits := Grammar.ofTokens_fitsIn parsed
  exact ⟨Program.printedIn_eq fits, Program.evaluateIn_eq fits⟩

end CalcScript
