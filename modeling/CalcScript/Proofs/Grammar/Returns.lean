import CalcScript.Proofs.Grammar.Moments
import CalcScript.Proofs.Grammar.Reused

/-!
# Calls return what the parsers return

From the moment a part of the parser is called, its own frames come and go above those that wait for
it, until it returns to them. What it returns and where it stops is what the parser of that part
gives. The machine as a whole ends with the outcome of the parser of programs.
-/

set_option autoImplicit false

namespace CalcScript

open CalcScript.Parser (maxNesting maxHeight operatorOf? tooHigh less_room_of_linked)

/-- Moments that follow one another, in all of which the same frames wait. -/
inductive Moment.Leads (waiting : List Frame) : Moment → Moment → Prop where
  | refl {moment : Moment} (waits : waiting <:+ moment.frames) : Leads waiting moment moment
  | step {first last : Moment} (waits : waiting <:+ first.frames)
      (rest : Leads waiting first.next last) : Leads waiting first last

namespace Moment.Leads

variable {waiting : List Frame} {first middle last : Moment}

theorem trans (left : Leads waiting first middle) (right : Leads waiting middle last) :
    Leads waiting first last := by
  induction left with
  | refl => exact right
  | step waits _ ih => exact .step waits (ih right)

theorem weaken {fewer : List Frame} (below : fewer <:+ waiting) (leads : Leads waiting first last) :
    Leads fewer first last := by
  induction leads with
  | refl waits => exact .refl (below.trans waits)
  | step waits _ ih => exact .step (below.trans waits) ih

theorem exists_later (leads : Leads waiting first last) :
    ∃ moments, first.later moments = last ∧
      ∀ between ≤ moments, waiting <:+ (first.later between).frames := by
  induction leads with
  | refl waits =>
      refine ⟨0, rfl, fun between le => ?_⟩
      cases Nat.le_zero.mp le
      exact waits
  | step waits _ ih =>
      obtain ⟨moments, reached, stay⟩ := ih
      refine ⟨moments + 1, reached, fun between le => ?_⟩
      cases between with
      | zero => exact waits
      | succ between => exact stay between (Nat.le_of_succ_le_succ le)

end Moment.Leads

/-- A descent that has passed the token that the stream has read last. -/
structure Descent.Stands (nesting : Nat) (descent : Descent) (stream : TokenStream) : Prop extends
    descent.Shows nesting stream where
  previous : descent.previous.span = stream.lastSpan

theorem Descent.Shows.stands_bumped {nesting : Nat} {descent : Descent} {stream : TokenStream}
    (shows : descent.Shows nesting stream) : descent.bumped.Stands nesting stream.advanced where
  toShows := shows.bumped
  previous := congrArg Token.span shows.current

theorem Descent.Stands.left {nesting : Nat} {descent : Descent} {stream : TokenStream}
    (stands : descent.Stands (nesting + 1) stream) : descent.left.Stands nesting stream where
  toShows := stands.toShows.left
  previous := stands.previous

namespace Moment

/-- What a call returns and where, next to the result of a parser. -/
inductive Agrees (nesting : Nat) :
    Except SyntaxError Gauged → Descent → EStateM.Result SyntaxError TokenStream Expr → Prop where
  | ok {tree : Gauged} {stopped : Descent} {after : TokenStream} (isExact : tree.Exact)
      (stands : stopped.Stands nesting after) :
      Agrees nesting (.ok tree) stopped (.ok tree.plain after)
  | error {error : SyntaxError} {stopped : Descent} {after : TokenStream}
      (shows : stopped.Shows nesting after) :
      Agrees nesting (.error error) stopped (.error error after)

theorem Agrees.nesting_eq {nesting : Nat} {outcome : Except SyntaxError Gauged} {stopped : Descent}
    {result : EStateM.Result SyntaxError TokenStream Expr}
    (agrees : Agrees nesting outcome stopped result) : stopped.nesting = nesting := by
  cases agrees with
  | ok _ stands => exact stands.nesting
  | error shows => exact shows.nesting

/-- A moment from which something that agrees with the result is returned to the frames. -/
def Arrives (nesting : Nat) (frames : List Frame) (body : List Statement)
    (result : EStateM.Result SyntaxError TokenStream Expr) (moment : Moment) : Prop :=
  ∃ outcome stopped, Agrees nesting outcome stopped result ∧
    Leads frames moment ⟨.returned outcome, frames, stopped, body⟩

/-- A part of the machine that is called on a level and returns what a parser gives. -/
def Returns (nesting : Nat) (part : Part) (parser : Parser Expr) : Prop :=
  ∀ ⦃descent : Descent⦄ ⦃stream : TokenStream⦄, descent.Shows nesting stream →
    ∀ frames body, Arrives nesting frames body (parser stream) ⟨.call part, frames, descent, body⟩

/-- A node is refused by its stored height where the parsers refuse it by its true height. -/
theorem bounded_of_fits {node : Gauged} {plain : Expr} (isExact : node.Exact)
    (same : node.plain = plain) (fits : plain.height ≤ maxHeight) : bounded node = .ok node :=
  if_pos (by rwa [isExact.height_eq, same])

theorem bounded_of_high {node : Gauged} {plain : Expr} (isExact : node.Exact)
    (same : node.plain = plain) (high : ¬plain.height ≤ maxHeight) :
    bounded node = .error (tooHigh plain) := by
  subst same
  rw [bounded, isExact.height_eq, if_neg high, tooHigh, Gauged.span_plain]

section Arriving

variable {nesting : Nat} {frames : List Frame} {body : List Statement} {descent : Descent}
  {stream : TokenStream} {result : EStateM.Result SyntaxError TokenStream Expr}

theorem Arrives.step {moment : Moment} (waits : frames <:+ moment.frames)
    (next : Arrives nesting frames body result moment.next) :
    Arrives nesting frames body result moment := by
  obtain ⟨outcome, stopped, agrees, leads⟩ := next
  exact ⟨outcome, stopped, agrees, .step waits leads⟩

theorem arrives_tree {tree : Gauged} (isExact : tree.Exact)
    (stands : descent.Stands nesting stream) :
    Arrives nesting frames body (.ok tree.plain stream)
      ⟨.returned (.ok tree), frames, descent, body⟩ :=
  ⟨_, _, .ok isExact stands, .refl (List.suffix_refl frames)⟩

theorem arrives_error (error : SyntaxError) (shows : descent.Shows nesting stream) :
    Arrives nesting frames body (.error error stream)
      ⟨.returned (.error error), frames, descent, body⟩ :=
  ⟨_, _, .error shows, .refl (List.suffix_refl frames)⟩

/-- A frame waits for a part and goes on with its tree. An error passes through it. -/
theorem Returns.bind {part : Part} {parser : Parser Expr} {frame : Frame}
    {next : Expr → Parser Expr} (called : Returns nesting part parser)
    (shows : descent.Shows nesting stream)
    (passes : ∀ (moment : Moment) error, moment.unwind error frame = moment.fail error)
    (resumes : ∀ {tree : Gauged} {stopped : Descent} {after : TokenStream}, tree.Exact →
      stopped.Stands nesting after → Arrives nesting frames body (next tree.plain after)
        (resume ⟨.returned (.ok tree), frames, stopped, body⟩ tree frame)) :
    Arrives nesting frames body ((parser >>= next) stream)
      ⟨.call part, frame :: frames, descent, body⟩ := by
  obtain ⟨outcome, stopped, agrees, leads⟩ := called shows (frame :: frames) body
  have waits := List.suffix_cons frame frames
  change Arrives nesting frames body (EStateM.bind parser next stream) _
  rw [EStateM.bind]
  generalize parser stream = parsed at agrees
  cases agrees with
  | @ok tree _ after isExact stands =>
      obtain ⟨outcome, last, agreesLast, leadsLast⟩ := resumes isExact stands
      exact ⟨outcome, last, agreesLast,
        (leads.weaken waits).trans (.step waits leadsLast)⟩
  | @error error _ after shows =>
      refine ⟨.error error, stopped, .error shows, (leads.weaken waits).trans (.step waits ?_)⟩
      change Leads frames (unwind ⟨.returned (.error error), frames, stopped, body⟩ error frame) _
      rw [passes]
      exact .refl (List.suffix_refl frames)

end Arriving

section Parts

variable {nesting : Nat} {nested operand : Parser Expr}

theorem returns_primary (inner : Returns nesting .expression nested) :
    Returns nesting .primary (Parser.primary nested) := by
  intro descent stream shows frames body
  refine .step (List.suffix_refl frames) ?_
  change Arrives nesting frames body _ (primary ⟨.call .primary, frames, descent, body⟩)
  rw [Parser.primary, Parser.current_bind_apply, ← shows.current, primary, Moment.current]
  cases kind : descent.current.kind <;> simp only
  case identifier => exact arrives_tree (Gauged.fit_leafName _ _).exact shows.stands_bumped
  case number =>
    cases Number.read? descent.current.text with
    | none => exact arrives_error _ shows
    | some value => exact arrives_tree (Gauged.fit_leafNumber _ _).exact shows.stands_bumped
  case openParen =>
    refine inner.bind shows.bumped (fun _ _ => rfl) fun {tree stopped after} isExact stands => ?_
    rw [Parser.expect_bind_apply, ← stands.current, resume, Moment.current]
    simp only
    split
    · exact arrives_tree isExact stands.stands_bumped
    · exact arrives_error _ stands.toShows
  all_goals exact arrives_error _ shows

theorem arrives_loop {stage : ChainStage} (called : Returns nesting stage.operand operand)
    {frames : List Frame} {body : List Statement} {descent : Descent} {stream : TokenStream}
    {left : Gauged} (isExact : left.Exact) (stands : descent.Stands nesting stream) :
    Arrives nesting frames body (Parser.chainFrom stage.accepts operand left.plain stream)
      ⟨.chain stage left, frames, descent, body⟩ := by
  -- every round leaves less height up to the limit
  induction measure : maxHeight - left.plain.height using Nat.strongRecOn
    generalizing left descent stream with
  | ind room ih =>
      refine .step (List.suffix_refl frames) ?_
      change Arrives nesting frames body _
        (link ⟨.chain stage left, frames, descent, body⟩ stage left)
      rw [Parser.chainFrom, Parser.current_bind_apply, ← stands.current, link, Moment.current]
      cases operatorOf? stage.accepts descent.current with
      | none => exact arrives_tree isExact stands
      | some operator =>
          refine called.bind stands.bumped (fun _ _ => rfl)
            fun {right stopped after} fit stops => ?_
          have linked := isExact.linked fit operator
          have same := Gauged.plain_linked operator left right
          rw [resume]
          by_cases fits : (Expr.linked operator left.plain right.plain).height ≤ maxHeight
          · rw [dif_pos fits, bounded_of_fits linked same fits, ← same]
            have shorter := less_room_of_linked fits
            rw [← same, measure] at shorter
            exact ih _ shorter linked stops rfl
          · rw [dif_neg fits, bounded_of_high linked same fits]
            exact arrives_error _ stops.toShows

theorem returns_chain (stage : ChainStage) (called : Returns nesting stage.operand operand) :
    Returns nesting (.chain stage) (Parser.chain stage.accepts operand) := by
  intro descent stream shows frames body
  refine .step (List.suffix_refl frames) ?_
  exact called.bind shows (fun _ _ => rfl) fun isExact stands => arrives_loop called isExact stands

theorem returns_additive (inner : Returns nesting .expression nested) :
    Returns nesting (.chain .additive) (Parser.additive nested) := by
  have factor : Returns nesting (.chain .multiplicative) (Parser.multiplicative nested) :=
    returns_chain .multiplicative (returns_primary inner)
  exact returns_chain .additive factor

/-- An expression that has been let in. -/
theorem arrives_letIn (inner : Returns (nesting + 1) .expression nested) {descent : Descent}
    {stream : TokenStream} (shows : descent.Shows nesting stream) (below : nesting ≠ maxNesting)
    (frames : List Frame) (body : List Statement) :
    Arrives (nesting + 1) (.active :: frames) body (Parser.expressionOver nested stream)
      (letIn ⟨.call .expression, frames, descent, body⟩) := by
  rw [letIn, if_neg (shows.nesting ▸ below)]
  refine (returns_additive inner).bind shows.entered (fun _ _ => rfl)
    fun {target middle after} isExact stands => ?_
  rw [Parser.assignmentFrom, Parser.accept_bind_apply, ← stands.current, resume, Moment.current]
  simp only
  split
  case isFalse => exact arrives_tree isExact stands
  case isTrue =>
    refine inner.bind stands.bumped (fun _ _ => rfl) fun {value stopped last} fit stops => ?_
    have assigned := isExact.assigned fit
    have same := Gauged.plain_assigned target value
    rw [resume]
    by_cases fits : (Expr.assigned target.plain value.plain).height ≤ maxHeight
    · rw [if_pos fits, bounded_of_fits assigned same fits, ← same]
      exact arrives_tree assigned stops
    · rw [if_neg fits, bounded_of_high assigned same fits]
      exact arrives_error _ stops.toShows

theorem Arrives.leave {frames : List Frame} {body : List Statement} {moment : Moment}
    {result : EStateM.Result SyntaxError TokenStream Expr}
    (inside : Arrives (nesting + 1) (.active :: frames) body result moment) :
    Arrives nesting frames body result moment := by
  obtain ⟨outcome, stopped, agrees, leads⟩ := inside
  have waits := List.suffix_cons Frame.active frames
  refine ⟨outcome, stopped.left, ?_, (leads.weaken waits).trans (.step waits ?_)⟩
  · cases agrees with
    | ok isExact stands => exact .ok isExact stands.left
    | error shows => exact .error shows.left
  · cases outcome <;> exact .refl (List.suffix_refl frames)

/-- Each level that is left to the parsers is a level up to the limit. -/
theorem returns_expressionWithin {levels : Nat} (deep : nesting + levels = maxNesting) :
    Returns nesting .expression (Parser.expressionWithin levels) := by
  induction levels generalizing nesting with
  | zero =>
      intro descent stream shows frames body
      refine .step (List.suffix_refl frames) ?_
      change Arrives nesting frames body _ (letIn ⟨.call .expression, frames, descent, body⟩)
      rw [letIn, if_pos (shows.nesting.trans deep), Moment.current, shows.current]
      exact arrives_error _ shows
  | succ levels ih =>
      intro descent stream shows frames body
      have inner : Returns (nesting + 1) .expression (Parser.expressionWithin levels) :=
        ih (by omega)
      exact .step (List.suffix_refl frames) (arrives_letIn inner shows (by omega) frames body).leave

end Parts

theorem later_succ (moment : Moment) (moments : Nat) :
    moment.later (moments + 1) = (moment.later moments).next := by
  induction moments generalizing moment with
  | zero => rfl
  | succ moments ih => exact ih moment.next

/-- A call of the parser of expressions returns to the frames that it was made from, on the level
that it was made on. If it is let in it is active until then. -/
theorem exists_return {levels : Nat} {descent : Descent}
    (few : descent.nesting + levels = maxNesting) (frames : List Frame) (body : List Statement) :
    ∃ outcome stopped moments, stopped.nesting = descent.nesting ∧
      later ⟨.call .expression, frames, descent, body⟩ (moments + 1) =
        ⟨.returned outcome, frames, stopped, body⟩ ∧
      ∀ between < moments, .active :: frames <:+
        (later ⟨.call .expression, frames, descent, body⟩ (between + 1)).frames := by
  cases levels with
  | zero =>
      refine ⟨_, descent, 0, rfl, if_pos few, nofun⟩
  | succ levels =>
      -- where the machine stands there also is a stream
      have shows : descent.Shows descent.nesting ⟨descent.unread, descent.previous.span⟩ :=
        ⟨rfl, rfl, rfl⟩
      have inner : Returns (descent.nesting + 1) .expression (Parser.expressionWithin levels) :=
        returns_expressionWithin (by omega)
      obtain ⟨outcome, stopped, agrees, leads⟩ :=
        arrives_letIn inner shows (by omega) frames body
      obtain ⟨moments, reached, stay⟩ := leads.exists_later
      have level : stopped.left.nesting = descent.nesting :=
        Nat.sub_eq_of_eq_add agrees.nesting_eq
      refine ⟨outcome, stopped.left, moments + 1, level, ?_, fun between less => ?_⟩
      · change (letIn _).later (moments + 1) = _
        rw [later_succ, reached]
        cases outcome <;> rfl
      · exact stay between (Nat.le_of_lt_succ less)

/-! ## Statements -/

section Statements

variable {body : List Statement} {descent : Descent} {stream : TokenStream}

/-- The statement of a parser has been added to the others, or its error has ended it all. -/
inductive Settled (body : List Statement) :
    EStateM.Result SyntaxError TokenStream Statement → Moment → Prop where
  | added {statement : Statement} {after : TokenStream} {stopped : Descent}
      (shows : stopped.Shows 0 after) :
      Settled body (.ok statement after) ⟨.statements, [], stopped, body ++ [statement]⟩
  | ended {error : SyntaxError} {after : TokenStream} {last : Moment}
      (finished : last.task = .finished (.error error)) : Settled body (.error error after) last

def Settles (body : List Statement) (result : EStateM.Result SyntaxError TokenStream Statement)
    (moment : Moment) : Prop :=
  ∃ last, Settled body result last ∧ Leads [] moment last

theorem Settled.now {result : EStateM.Result SyntaxError TokenStream Statement} {moment : Moment}
    (settled : Settled body result moment) : Settles body result moment :=
  ⟨moment, settled, .refl List.nil_suffix⟩

theorem Settles.after {result : EStateM.Result SyntaxError TokenStream Statement}
    {first middle : Moment} {frames : List Frame} (leads : Leads frames first middle)
    (settles : Settles body result middle) : Settles body result first := by
  obtain ⟨last, settled, rest⟩ := settles
  exact ⟨last, settled, (leads.weaken List.nil_suffix).trans rest⟩

/-- The frame of a statement waits for an expression. An error ends it all. -/
theorem Returns.settles {part : Part} {parser : Parser Expr} {frame : Frame}
    {next : Expr → Parser Statement} (called : Returns 0 part parser)
    (shows : descent.Shows 0 stream)
    (passes : ∀ (moment : Moment) error, moment.unwind error frame = moment.finish (.error error))
    (resumes : ∀ {tree : Gauged} {stopped : Descent} {after : TokenStream}, stopped.Stands 0 after →
      Settles body (next tree.plain after)
        (resume ⟨.returned (.ok tree), [], stopped, body⟩ tree frame)) :
    Settles body ((parser >>= next) stream) ⟨.call part, [frame], descent, body⟩ := by
  obtain ⟨outcome, stopped, agrees, leads⟩ := called shows [frame] body
  change Settles body (EStateM.bind parser next stream) _
  rw [EStateM.bind]
  generalize parser stream = parsed at agrees
  refine .after leads (.after (.step List.nil_suffix (.refl List.nil_suffix)) ?_)
  cases agrees with
  | ok _ stands => exact resumes stands
  | error =>
      refine Settled.now (.ended ?_)
      change (unwind _ _ frame).task = _
      rw [passes]
      rfl

/-- A statement without a keyword is an expression and what ends it. -/
theorem statement_plain (plain : ∀ constant, stream.current.kind ≠ Grammar.keywordKind constant) :
    Parser.statement stream = (Parser.expression >>= fun value => do
      Parser.terminator
      return ⟨.expression value, stream.current.span.join (← Parser.lastSpan)⟩) stream := by
  rw [Parser.statement, Parser.current_bind_apply, Grammar.actionAt_plain plain,
    Parser.expressionStatement]
  simp only [bind_assoc, pure_bind]

/-- A statement with a keyword is a declaration. -/
theorem statement_keyword {constant : Bool}
    (keyword : stream.current.kind = Grammar.keywordKind constant) :
    Parser.statement stream = (Parser.expect .identifier >>= fun name =>
      Parser.initializer constant stream.current name >>= fun value => do
        return ⟨.declaration constant name.text name.span value,
          stream.current.span.join (← Parser.lastSpan)⟩) stream.advanced := by
  rw [Parser.statement, Parser.current_bind_apply, Grammar.actionAt_keyword constant keyword,
    Parser.declaration]
  simp only [bind_assoc, pure_bind, Parser.current_bind_apply, Parser.advance_bind_apply]

theorem settles_add {task : Task} (stands : descent.Stands 0 stream) (action : Action)
    (start : Span) :
    Settles body (.ok ⟨action, start.join stream.lastSpan⟩ stream)
      (add ⟨task, [], descent, body⟩ action start) := by
  rw [← stands.previous]
  exact Settled.now (.added stands.toShows)

theorem settles_error {task : Task} (error : SyntaxError) :
    Settles body (.error error stream)
      (finish ⟨task, [], descent, body⟩ (.error error)) :=
  Settled.now (.ended rfl)

theorem settles_plain (shows : descent.Shows 0 stream)
    (plain : ∀ constant, stream.current.kind ≠ Grammar.keywordKind constant) :
    Settles body (Parser.statement stream)
      ⟨.call .expression, [.statement stream.current.span], descent, body⟩ := by
  have called : Returns 0 .expression Parser.expression := returns_expressionWithin rfl
  rw [statement_plain plain]
  refine called.settles shows (fun _ _ => rfl) fun {tree stopped after} stands => ?_
  rw [Parser.terminator, bind_assoc, Parser.accept_bind_apply, ← stands.current, resume,
    Moment.current]
  simp only
  split
  · exact settles_add stands.stands_bumped _ _
  · rw [if_neg Bool.false_ne_true, bind_assoc, Parser.current_bind_apply, ← stands.current]
    split
    · exact settles_add stands _ _
    · exact settles_error _

theorem settles_declared (shows : descent.Shows 0 stream) {task : Task} (constant : Bool)
    (keyword name : Token) :
    Settles body ((Parser.initializer constant keyword name >>= fun value => do
        return ⟨.declaration constant name.text name.span value,
          keyword.span.join (← Parser.lastSpan)⟩) stream)
      (declared ⟨task, [], descent, body⟩ constant name keyword.span) := by
  have called : Returns 0 .expression Parser.expression := returns_expressionWithin rfl
  rw [Parser.initializer, bind_assoc, Parser.accept_bind_apply, ← shows.current, declared,
    Moment.current]
  simp only
  split
  · have closed := shows.stands_bumped
    cases constant with
    | true =>
        simp only [bump, closed.previous, if_true]
        exact settles_error _
    | false => exact settles_add closed _ _
  · rw [if_neg Bool.false_ne_true, bind_assoc, Parser.expect_bind_apply, ← shows.current]
    split
    · rw [bind_assoc]
      refine called.settles shows.bumped (fun _ _ => rfl) fun {tree stopped after} stands => ?_
      rw [bind_assoc, Parser.expect_bind_apply, ← stands.current, resume, Moment.current]
      simp only
      split
      · exact settles_add stands.stands_bumped _ _
      · exact settles_error _
    · exact settles_error _

theorem settles_named (shows : descent.Shows 0 stream) {task : Task} (constant : Bool)
    (keyword : Token) :
    Settles body ((Parser.expect .identifier >>= fun name =>
        Parser.initializer constant keyword name >>= fun value => do
          return ⟨.declaration constant name.text name.span value,
            keyword.span.join (← Parser.lastSpan)⟩) stream)
      (named ⟨task, [], descent, body⟩ constant keyword.span) := by
  rw [Parser.expect_bind_apply, ← shows.current, named, Moment.current]
  simp only
  split
  · exact settles_declared shows.bumped constant keyword descent.current
  · exact settles_error _

theorem settles_keyword (shows : descent.Shows 0 stream) {task : Task} (constant : Bool)
    (keyword : stream.current.kind = Grammar.keywordKind constant) :
    Settles body (Parser.statement stream)
      (named (bump ⟨task, [], descent, body⟩) constant stream.current.span) := by
  rw [statement_keyword keyword]
  exact settles_named shows.bumped constant stream.current

/-- One statement. -/
theorem settles_statement (body : List Statement) (shows : descent.Shows 0 stream)
    (unfinished : stream.current.kind ≠ .endOfFile) :
    Settles body (Parser.statement stream) ⟨.statements, [], descent, body⟩ := by
  refine .after (.step List.nil_suffix (.refl List.nil_suffix)) ?_
  change Settles body _ (nextStatement ⟨.statements, [], descent, body⟩)
  rw [nextStatement, Moment.current, shows.current]
  split
  case h_1 finished => exact absurd finished unfinished
  case h_2 keyword => exact settles_keyword shows false keyword
  case h_3 keyword => exact settles_keyword shows true keyword
  case h_4 noLet noConst =>
    refine settles_plain shows fun constant => ?_
    cases constant <;> assumption

/-- The machine goes through all statements and ends with the outcome of the parser of programs. -/
theorem exists_finished (body : List Statement) (shows : descent.Shows 0 stream) :
    ∃ last,
      last.task = .finished ((Parser.statements stream).map fun rest => ⟨body ++ rest⟩) ∧
      Leads [] ⟨.statements, [], descent, body⟩ last := by
  induction size : stream.remaining.length using Nat.strongRecOn
    generalizing descent stream body with
  | ind length ih =>
      by_cases finished : stream.current.kind = .endOfFile
      · refine ⟨finish ⟨.statements, [], descent, body⟩ (.ok ⟨body⟩), ?_, ?_⟩
        · rw [Parser.statements_at_end finished]
          exact congrArg (fun all => Task.finished (.ok ⟨all⟩)) (List.append_nil body).symm
        · refine .step List.nil_suffix ?_
          change Leads [] (nextStatement ⟨.statements, [], descent, body⟩) _
          rw [nextStatement, Moment.current, shows.current, finished]
          exact .refl List.nil_suffix
      · obtain ⟨middle, settled, leads⟩ := settles_statement body shows finished
        generalize parsed : Parser.statement stream = result at settled
        cases settled with
        | @added statement after stopped showsAfter =>
            have shorter := Parser.consumes_statement parsed
            obtain ⟨last, ended, rest⟩ :=
              ih _ (size ▸ shorter) (body ++ [statement]) showsAfter rfl
            refine ⟨last, ?_, leads.trans rest⟩
            rw [Parser.statements_of_ok finished parsed, ended]
            cases Parser.statements after with
            | error => rfl
            | ok results => simp [Except.map]
        | ended ended =>
            refine ⟨middle, ?_, leads⟩
            rw [Parser.statements_of_error finished parsed, ended]
            rfl

theorem exists_later_finished (tokens : List Token) :
    ∃ moments, ((start tokens).later moments).task = .finished (Program.ofTokens tokens) := by
  obtain ⟨last, finished, leads⟩ := exists_finished [] (Descent.shows_ofList tokens)
  obtain ⟨moments, reached, -⟩ := leads.exists_later
  refine ⟨moments, ?_⟩
  rw [start, reached]
  exact finished

end Statements

end Moment

end CalcScript
