import CalcScript.Parser.Moment

/-!
# What holds at every moment of parsing

As many calls of the parser of expressions are active as levels are counted, and never more than the
limit. Every tree that is returned, and every tree that waits in a frame, stores the true heights of
its nodes and is not too high. Both hold at the start and at every moment that follows one where
they hold, whether trees are returned or errors.
-/

set_option autoImplicit false

namespace CalcScript

open CalcScript.Parser (maxNesting maxHeight)

/-- A tree that stores its true heights, of which none is over the limit. -/
structure Gauged.Fit (tree : Gauged) : Prop where
  exact : tree.Exact
  fits : tree.height ≤ maxHeight

theorem Gauged.fit_leafNumber (value : Float) (span : Span) : (leafNumber value span).Fit :=
  ⟨rfl, by change 1 ≤ 1024; decide⟩

theorem Gauged.fit_leafName (symbol : String) (span : Span) : (leafName symbol span).Fit :=
  ⟨rfl, by change 1 ≤ 1024; decide⟩

def Frame.Fit : Frame → Prop
  | .value tree | .operand _ _ tree => tree.Fit
  | _ => True

def Task.Fit : Task → Prop
  | .chain _ tree | .returned (.ok tree) => tree.Fit
  | _ => True

namespace Moment

/-- What holds of the frames and of the count of levels. -/
structure Ready (moment : Moment) : Prop where
  levels : moment.calls = moment.descent.nesting
  few : moment.descent.nesting ≤ maxNesting
  frames : ∀ frame ∈ moment.frames, frame.Fit

structure Sound (moment : Moment) : Prop where
  ready : moment.Ready
  task : moment.task.Fit

namespace Ready

variable {moment : Moment} (ready : moment.Ready)

include ready

theorem bump : moment.bump.Ready := ⟨ready.levels, ready.few, ready.frames⟩

theorem finish (outcome : Except SyntaxError Program) : (moment.finish outcome).Sound :=
  ⟨⟨ready.levels, ready.few, ready.frames⟩, trivial⟩

theorem fail (error : SyntaxError) : (moment.fail error).Sound :=
  ⟨⟨ready.levels, ready.few, ready.frames⟩, trivial⟩

theorem add (action : Action) (start : Span) : (moment.add action start).Sound :=
  ⟨⟨ready.levels, ready.few, ready.frames⟩, trivial⟩

theorem give {tree : Gauged} (fit : tree.Fit) : (moment.give tree).Sound :=
  ⟨⟨ready.levels, ready.few, ready.frames⟩, fit⟩

theorem loop {left : Gauged} (fit : left.Fit) (stage : ChainStage) :
    (moment.loop stage left).Sound :=
  ⟨⟨ready.levels, ready.few, ready.frames⟩, fit⟩

theorem call (frame : Frame) (fit : frame.Fit) (waits : frame ≠ .active) (part : Part) :
    (moment.call part frame).Sound :=
  ⟨⟨(List.count_cons_of_ne waits).trans ready.levels, ready.few,
    List.forall_mem_cons.mpr ⟨fit, ready.frames⟩⟩, trivial⟩

/-- A frame that waited is gone. -/
theorem pop {frame : Frame} {frames : List Frame} (top : moment.frames = frame :: frames)
    (waited : frame ≠ .active) : Ready { moment with frames } where
  levels := by
    have levels := ready.levels
    rwa [calls, top, List.count_cons_of_ne waited] at levels
  few := ready.few
  frames := fun other among => ready.frames other (top ▸ List.mem_cons_of_mem frame among)

/-- A call has returned, and its level is left. -/
theorem leave {frames : List Frame} (top : moment.frames = .active :: frames) :
    Ready ⟨moment.task, frames, moment.descent.left, moment.body⟩ where
  levels := by
    have levels := ready.levels
    rw [calls, top, List.count_cons_self] at levels
    exact Nat.eq_sub_of_add_eq levels
  few := Nat.le_trans (Nat.sub_le _ _) ready.few
  frames := fun other among => ready.frames other (top ▸ List.mem_cons_of_mem .active among)

theorem primary : moment.primary.Sound := by
  unfold Moment.primary
  split
  · exact ready.bump.give (Gauged.fit_leafName _ _)
  · split
    · exact ready.bump.give (Gauged.fit_leafNumber _ _)
    · exact ready.fail _
  · exact ready.bump.call .group trivial (by simp) _
  · exact ready.fail _

/-- A call is let in only if its level is within the limit. -/
theorem letIn : moment.letIn.Sound := by
  unfold Moment.letIn
  split
  case isTrue => exact ready.fail _
  case isFalse below =>
    refine ⟨⟨?_, Nat.lt_of_le_of_ne ready.few below, ?_⟩, trivial⟩
    · rw [calls, List.count_cons_of_ne (by simp), List.count_cons_self]
      exact congrArg (· + 1) ready.levels
    · simpa [Frame.Fit] using ready.frames

theorem enter (part : Part) : (moment.enter part).Sound := by
  cases part with
  | primary => exact ready.primary
  | chain stage => exact ready.call (.first stage) trivial (by simp) _
  | expression => exact ready.letIn

theorem link {left : Gauged} (fit : left.Fit) (stage : ChainStage) :
    (moment.link stage left).Sound := by
  unfold Moment.link
  split
  · exact ready.give fit
  · exact ready.bump.call (.operand stage _ left) fit (by simp) _

theorem declared (constant : Bool) (name : Token) (start : Span) :
    (moment.declared constant name start).Sound := by
  unfold Moment.declared
  split
  · split
    · exact ready.finish _
    · exact ready.bump.add _ _
  · split
    · exact ready.bump.call (.declaration constant name start) trivial (by simp) _
    · exact ready.finish _

theorem named (constant : Bool) (start : Span) : (moment.named constant start).Sound := by
  unfold Moment.named
  split
  · exact ready.bump.declared _ _ _
  · exact ready.finish _

theorem nextStatement : moment.nextStatement.Sound := by
  unfold Moment.nextStatement
  split
  · exact ready.finish _
  · exact ready.bump.named _ _
  · exact ready.bump.named _ _
  · exact ready.call (.statement _) trivial (by simp) _

end Ready

/-- A node that is not refused is not too high. -/
theorem bounded_fit {node : Gauged} (isExact : node.Exact) :
    (Task.returned (bounded node)).Fit := by
  unfold bounded
  split
  case isTrue fits => exact ⟨isExact, fits⟩
  case isFalse => trivial

theorem Ready.resume {moment : Moment} {frame : Frame} {frames : List Frame}
    (ready : moment.Ready) (top : moment.frames = frame :: frames) {tree : Gauged}
    (fit : tree.Fit) : (resume { moment with frames } tree frame).Sound := by
  have inFrame := ready.frames frame (top ▸ List.mem_cons_self)
  by_cases waited : frame = .active
  · subst waited
    have left := ready.leave top
    exact ⟨⟨left.levels, left.few, left.frames⟩, fit⟩
  have popped := ready.pop top waited
  cases frame with
  | active => contradiction
  | target =>
      dsimp only [Moment.resume]
      split
      · exact popped.bump.call (.value tree) fit (by simp) _
      · exact popped.give fit
  | value target =>
      exact ⟨⟨popped.levels, popped.few, popped.frames⟩,
        bounded_fit (inFrame.exact.assigned fit.exact)⟩
  | first stage => exact popped.loop fit stage
  | operand stage operator left =>
      have node := bounded_fit (inFrame.exact.linked fit.exact operator)
      dsimp only [Moment.resume]
      split
      case h_1 linked =>
        rw [linked] at node
        exact popped.loop node stage
      case h_2 => exact popped.fail _
  | group =>
      dsimp only [Moment.resume]
      split
      · exact popped.bump.give fit
      · exact popped.fail _
  | statement start =>
      dsimp only [Moment.resume]
      split
      · exact popped.bump.add _ _
      · split
        · exact popped.add _ _
        · exact popped.finish _
  | declaration constant name start =>
      dsimp only [Moment.resume]
      split
      · exact popped.bump.add _ _
      · exact popped.finish _

theorem Ready.unwind {moment : Moment} {frame : Frame} {frames : List Frame}
    (ready : moment.Ready) (top : moment.frames = frame :: frames) (error : SyntaxError) :
    (unwind { moment with frames } error frame).Sound := by
  by_cases waited : frame = .active
  · subst waited
    have left := ready.leave top
    exact ⟨⟨left.levels, left.few, left.frames⟩, trivial⟩
  have popped := ready.pop top waited
  cases frame with
  | active => contradiction
  | statement | declaration => exact popped.finish _
  | target | value | first | operand | group => exact popped.fail _

/-- Whatever comes next, the levels still count the calls and the trees are still fit. -/
theorem Sound.next {moment : Moment} (sound : moment.Sound) : moment.next.Sound := by
  obtain ⟨ready, fit⟩ := sound
  obtain ⟨task, frames, descent, body⟩ := moment
  cases task with
  | statements => exact ready.nextStatement
  | call part => exact ready.enter part
  | chain stage left => exact ready.link fit stage
  | returned outcome =>
      cases frames with
      | nil => cases outcome <;> exact ⟨ready, fit⟩
      | cons frame frames =>
          cases outcome with
          | ok tree => exact ready.resume rfl fit
          | error error => exact ready.unwind rfl error
  | finished outcome => exact ⟨ready, fit⟩

theorem Sound.later {moment : Moment} (sound : moment.Sound) (moments : Nat) :
    (moment.later moments).Sound := by
  induction moments generalizing moment with
  | zero => exact sound
  | succ moments ih => exact ih sound.next

theorem sound_start (tokens : List Token) : (start tokens).Sound :=
  ⟨⟨rfl, Nat.zero_le _, nofun⟩, trivial⟩

end Moment

end CalcScript
