import CalcScript.Parser.Resumed
import CalcScript.Parser.Program
import CalcScript.Tree.Gauged

/-!
# Parsing moment by moment

The parsers as one machine that goes from moment to moment. What is being done is one task, and what
waits for it is a stack of frames, a frame for every call that has not returned. A call of the
parser of expressions is active from the moment it is let in until it returns. One that is made on
the deepest level is never let in. Letting a call in and counting its level is one move, and so is
its return; whether it returns a tree or an error, the level is left.
-/

set_option autoImplicit false

namespace CalcScript

/-- The two stages of chained operators. -/
inductive ChainStage where
  | multiplicative
  | additive
deriving DecidableEq, Repr

/-- The parsers that are called for an expression. -/
inductive Part where
  | primary
  | chain (stage : ChainStage)
  | expression
deriving DecidableEq, Repr

namespace ChainStage

def accepts : ChainStage → Operator → Bool
  | multiplicative => Operator.isMultiplicative
  | additive => Operator.isAdditive

/-- The parser of the operands of a stage. -/
def operand : ChainStage → Part
  | multiplicative => .primary
  | additive => .chain multiplicative

end ChainStage

/-- A call that waits for an expression, and what it keeps meanwhile. -/
inductive Frame where
  /-- A call of the parser of expressions, which leaves its level when it returns. -/
  | active
  /-- Waits for what may be the target of an assignment. -/
  | target
  | value (target : Gauged)
  | first (stage : ChainStage)
  | operand (stage : ChainStage) (operator : Operator) (left : Gauged)
  /-- Waits for what stands between parentheses. -/
  | group
  | statement (start : Span)
  | declaration (constant : Bool) (name : Token) (start : Span)
deriving DecidableEq, Repr

inductive Task where
  /-- Looks for another statement. -/
  | statements
  | call (part : Part)
  /-- Looks for another operator of a chain. -/
  | chain (stage : ChainStage) (left : Gauged)
  | returned (outcome : Except SyntaxError Gauged)
  | finished (outcome : Except SyntaxError Program)

structure Moment where
  task : Task
  /-- The innermost frame comes first. -/
  frames : List Frame
  descent : Descent
  /-- The statements so far. -/
  body : List Statement

namespace Moment

open CalcScript.Parser (maxNesting maxHeight operatorOf?)

def start (tokens : List Token) : Moment := ⟨.statements, [], .ofList tokens, []⟩

/-- Number of calls of the parser of expressions that are active. -/
def calls (moment : Moment) : Nat := moment.frames.count .active

/-! The moments that can come next. -/

def finish (moment : Moment) (outcome : Except SyntaxError Program) : Moment :=
  { moment with task := .finished outcome }

def give (moment : Moment) (tree : Gauged) : Moment := { moment with task := .returned (.ok tree) }

def fail (moment : Moment) (error : SyntaxError) : Moment :=
  { moment with task := .returned (.error error) }

def bump (moment : Moment) : Moment := { moment with descent := moment.descent.bumped }

def call (moment : Moment) (part : Part) (frame : Frame) : Moment :=
  { moment with task := .call part, frames := frame :: moment.frames }

def loop (moment : Moment) (stage : ChainStage) (left : Gauged) : Moment :=
  { moment with task := .chain stage left }

/-- A statement is complete with the token passed last. -/
def add (moment : Moment) (action : Action) (start : Span) : Moment :=
  { moment with
    task := .statements
    body := moment.body ++ [⟨action, start.join moment.descent.previous.span⟩] }

def current (moment : Moment) : Token := moment.descent.current

def missing (moment : Moment) (expected : TokenKind) : SyntaxError :=
  ⟨.expectedToken expected moment.current, moment.current.span⟩

def noExpression (moment : Moment) : SyntaxError :=
  ⟨.expectedExpression moment.current, moment.current.span⟩

/-- A node that is too high is an error in its place. -/
def bounded (node : Gauged) : Except SyntaxError Gauged :=
  if node.height ≤ maxHeight then .ok node else .error ⟨.nestedTooDeep maxHeight, node.span⟩

def primary (moment : Moment) : Moment :=
  match moment.current.kind with
  | .identifier => moment.bump.give (.leafName moment.current.text moment.current.span)
  | .number =>
    match Number.read? moment.current.text with
    | some value => moment.bump.give (.leafNumber value moment.current.span)
    | none => moment.fail moment.noExpression
  | .openParen => moment.bump.call .expression .group
  | _ => moment.fail moment.noExpression

def letIn (moment : Moment) : Moment :=
  if moment.descent.nesting = maxNesting then
    moment.fail ⟨.nestedTooDeep maxNesting, moment.current.span⟩
  else
    { moment with
      task := .call (.chain .additive)
      frames := .target :: .active :: moment.frames
      descent := moment.descent.entered }

def enter (moment : Moment) : Part → Moment
  | .primary => moment.primary
  | .chain stage => moment.call stage.operand (.first stage)
  | .expression => moment.letIn

def link (moment : Moment) (stage : ChainStage) (left : Gauged) : Moment :=
  match operatorOf? stage.accepts moment.current with
  | none => moment.give left
  | some operator => moment.bump.call stage.operand (.operand stage operator left)

/-- A frame goes on with the tree that it waited for. -/
def resume (moment : Moment) (tree : Gauged) : Frame → Moment
  | .active => { moment.give tree with descent := moment.descent.left }
  | .target =>
    if moment.current.kind = .equals then moment.bump.call .expression (.value tree)
    else moment.give tree
  | .value target => { moment with task := .returned (bounded (.assigned target tree)) }
  | .first stage => moment.loop stage tree
  | .operand stage operator left =>
    match bounded (.linked operator left tree) with
    | .ok node => moment.loop stage node
    | .error error => moment.fail error
  | .group =>
    if moment.current.kind = .closeParen then moment.bump.give tree
    else moment.fail (moment.missing .closeParen)
  | .statement start =>
    if moment.current.kind = .semicolon then moment.bump.add (.expression tree.plain) start
    else if moment.current.kind = .endOfFile then moment.add (.expression tree.plain) start
    else moment.finish (.error (moment.missing .semicolon))
  | .declaration constant name start =>
    if moment.current.kind = .semicolon then
      moment.bump.add (.declaration constant name.text name.span (some tree.plain)) start
    else moment.finish (.error (moment.missing .semicolon))

/-- A frame passes an error on. -/
def unwind (moment : Moment) (error : SyntaxError) : Frame → Moment
  | .active => { moment.fail error with descent := moment.descent.left }
  | .statement _ | .declaration .. => moment.finish (.error error)
  | _ => moment.fail error

/-- What follows the name of a declaration. -/
def declared (moment : Moment) (constant : Bool) (name : Token) (start : Span) : Moment :=
  if moment.current.kind = .semicolon then
    if constant then
      moment.finish (.error ⟨.uninitializedConstant name.text,
        start.join moment.bump.descent.previous.span⟩)
    else moment.bump.add (.declaration false name.text name.span none) start
  else if moment.current.kind = .equals then
    moment.bump.call .expression (.declaration constant name start)
  else moment.finish (.error (moment.missing .equals))

/-- What follows the keyword of a declaration. -/
def named (moment : Moment) (constant : Bool) (start : Span) : Moment :=
  if moment.current.kind = .identifier then
    moment.bump.declared constant moment.current start
  else moment.finish (.error (moment.missing .identifier))

def nextStatement (moment : Moment) : Moment :=
  match moment.current.kind with
  | .endOfFile => moment.finish (.ok ⟨moment.body⟩)
  | .letKeyword => moment.bump.named false moment.current.span
  | .constKeyword => moment.bump.named true moment.current.span
  | _ => moment.call .expression (.statement moment.current.span)

/-- The moment that follows. Nothing follows the end, nor a return that nothing waits for. -/
def next (moment : Moment) : Moment :=
  match moment.task, moment.frames with
  | .statements, _ => moment.nextStatement
  | .call part, _ => moment.enter part
  | .chain stage left, _ => moment.link stage left
  | .returned (.ok tree), frame :: frames => { moment with frames }.resume tree frame
  | .returned (.error error), frame :: frames => { moment with frames }.unwind error frame
  | .returned _, [] => moment
  | .finished _, _ => moment

def later (moment : Moment) : Nat → Moment
  | 0 => moment
  | moments + 1 => moment.next.later moments

end Moment

end CalcScript
