import CalcScript.Proofs.Grammar.Limits

/-!
# Where a limit is exceeded

A derivation that is read from left to right comes by a row of checks. Where an expression begins,
the levels around it are counted; where a compound is complete, its height is measured. The limits
play no part in the row itself. If every check passes, the derivation keeps to the limits. If not,
its tokens break off at the first check that fails, with the error that this check stands for.
-/

set_option autoImplicit false

namespace CalcScript

def Expr.IsCompound : Expr → Prop
  | number _ _ | name _ _ => False
  | binary _ _ _ _ | assignment _ _ _ => True

namespace Grammar

open CalcScript.Parser

inductive Check where
  /-- An expression begins with a token, inside so many levels. -/
  | entry (depth : Nat) (first : Token)
  /-- A compound is complete. -/
  | node (tree : Expr)

namespace Check

def passes (nesting : Nat) : Check → Bool
  | entry depth _ => depth < nesting
  | node tree => tree.height ≤ maxHeight

def error : Check → SyntaxError
  | entry _ first => ⟨.nestedTooDeep maxNesting, first.span⟩
  | node tree => tooHigh tree

/-- A check that fails by one and no more. -/
def JustFails (nesting : Nat) : Check → Prop
  | entry depth _ => depth = nesting
  | node tree => tree.IsCompound ∧ tree.height = maxHeight + 1

end Check

def firstFailed? (nesting : Nat) (checks : List Check) : Option Check :=
  checks.find? fun check => !check.passes nesting

/-- The checks of a derivation whose tokens stand inside so many parentheses and right-hand sides,
in the order in which a reader from left to right comes by them. -/
inductive Walks : Stage → Nat → List Token → Expr → List Check → Prop where
  | name {depth : Nat} {token : Token} :
      token.kind = .identifier →
      Walks .primary depth [token] (.name token.text token.span) []
  | number {depth : Nat} {token : Token} {value : Float} :
      token.kind = .number → Number.read? token.text = some value →
      Walks .primary depth [token] (.number value token.span) []
  | group {depth : Nat} {opening closing : Token} {tokens : List Token} {tree : Expr}
      {checks : List Check} :
      opening.kind = .openParen → Walks .expression (depth + 1) tokens tree checks →
      closing.kind = .closeParen →
      Walks .primary depth (opening :: tokens ++ [closing]) tree checks
  | factor {depth : Nat} {tokens : List Token} {tree : Expr} {checks : List Check} :
      Walks .primary depth tokens tree checks → Walks .multiplicative depth tokens tree checks
  | product {depth : Nat} {lefts rights : List Token} {sign : Token} {operator : Operator}
      {left right : Expr} {earlier later : List Check} :
      Walks .multiplicative depth lefts left earlier → Denotes sign operator →
      operator.isMultiplicative = true → Walks .primary depth rights right later →
      Walks .multiplicative depth (lefts ++ sign :: rights) (.linked operator left right)
        (earlier ++ later ++ [.node (.linked operator left right)])
  | term {depth : Nat} {tokens : List Token} {tree : Expr} {checks : List Check} :
      Walks .multiplicative depth tokens tree checks → Walks .additive depth tokens tree checks
  | sum {depth : Nat} {lefts rights : List Token} {sign : Token} {operator : Operator}
      {left right : Expr} {earlier later : List Check} :
      Walks .additive depth lefts left earlier → Denotes sign operator →
      operator.isAdditive = true → Walks .multiplicative depth rights right later →
      Walks .additive depth (lefts ++ sign :: rights) (.linked operator left right)
        (earlier ++ later ++ [.node (.linked operator left right)])
  | plain {depth : Nat} {first : Token} {rest : List Token} {tree : Expr}
      {checks : List Check} :
      Walks .additive depth (first :: rest) tree checks →
      Walks .expression depth (first :: rest) tree (.entry depth first :: checks)
  | assignment {depth : Nat} {first equals : Token} {targets values : List Token}
      {target value : Expr} {earlier later : List Check} :
      Walks .additive depth (first :: targets) target earlier → equals.kind = .equals →
      Walks .expression (depth + 1) values value later →
      Walks .expression depth (first :: targets ++ equals :: values) (.assigned target value)
        (.entry depth first :: (earlier ++ later ++ [.node (.assigned target value)]))

inductive WalksAction : List Token → Action → List Check → Prop where
  | bare {keyword name semicolon : Token} :
      keyword.kind = .letKeyword → name.kind = .identifier → semicolon.kind = .semicolon →
      WalksAction [keyword, name, semicolon] (.declaration false name.text name.span none) []
  | initialized {constant : Bool} {keyword name equals semicolon : Token} {tokens : List Token}
      {value : Expr} {checks : List Check} :
      keyword.kind = keywordKind constant → name.kind = .identifier → equals.kind = .equals →
      Walks .expression 0 tokens value checks → semicolon.kind = .semicolon →
      WalksAction (keyword :: name :: equals :: tokens ++ [semicolon])
        (.declaration constant name.text name.span (some value)) checks
  | expression {tokens : List Token} {value : Expr} {semicolon : Token} {checks : List Check} :
      Walks .expression 0 tokens value checks → semicolon.kind = .semicolon →
      WalksAction (tokens ++ [semicolon]) (.expression value) checks

inductive WalksStatements : List Token → List Statement → List Check → Prop where
  | nil : WalksStatements [] [] []
  | last {tokens : List Token} {value : Expr} {checks : List Check} :
      Walks .expression 0 tokens value checks →
      WalksStatements tokens [⟨.expression value, covering tokens⟩] checks
  | cons {first rest : List Token} {action : Action} {statements : List Statement}
      {earlier later : List Check} :
      WalksAction first action earlier → WalksStatements rest statements later →
      WalksStatements (first ++ rest) (⟨action, covering first⟩ :: statements) (earlier ++ later)

/-! ## Every derivation comes by its checks -/

theorem Derives.exists_walks {stage : Stage} {levels : Nat} {tokens : List Token} {tree : Expr}
    (derived : Derives stage levels tokens tree) (depth : Nat) :
    ∃ checks, Walks stage depth tokens tree checks := by
  induction derived generalizing depth with
  | name kind => exact ⟨_, .name kind⟩
  | number kind numeral => exact ⟨_, .number kind numeral⟩
  | group opens _ closes ih =>
      obtain ⟨checks, walks⟩ := ih (depth + 1)
      exact ⟨_, .group opens walks closes⟩
  | factor _ ih =>
      obtain ⟨checks, walks⟩ := ih depth
      exact ⟨_, .factor walks⟩
  | product _ sign staged _ leftIH rightIH =>
      obtain ⟨earlier, left⟩ := leftIH depth
      obtain ⟨later, right⟩ := rightIH depth
      exact ⟨_, .product left sign staged right⟩
  | term _ ih =>
      obtain ⟨checks, walks⟩ := ih depth
      exact ⟨_, .term walks⟩
  | sum _ sign staged _ leftIH rightIH =>
      obtain ⟨earlier, left⟩ := leftIH depth
      obtain ⟨later, right⟩ := rightIH depth
      exact ⟨_, .sum left sign staged right⟩
  | plain derived ih =>
      obtain ⟨checks, walks⟩ := ih depth
      obtain ⟨first, rest, rfl, -⟩ := derived.exists_first
      exact ⟨_, .plain walks⟩
  | assignment derived equals _ targetIH valueIH =>
      obtain ⟨earlier, target⟩ := targetIH depth
      obtain ⟨later, value⟩ := valueIH (depth + 1)
      obtain ⟨first, rest, rfl, -⟩ := derived.exists_first
      exact ⟨_, .assignment target equals value⟩

theorem Walks.exists_derives {stage : Stage} {depth : Nat} {tokens : List Token} {tree : Expr}
    {checks : List Check} (walks : Walks stage depth tokens tree checks) :
    ∃ levels, Derives stage levels tokens tree := by
  induction walks with
  | name kind => exact ⟨0, .name kind⟩
  | number kind numeral => exact ⟨0, .number kind numeral⟩
  | group opens _ closes ih =>
      obtain ⟨levels, derived⟩ := ih
      exact ⟨levels, .group opens derived closes⟩
  | factor _ ih =>
      obtain ⟨levels, derived⟩ := ih
      exact ⟨levels, .factor derived⟩
  | product _ sign staged _ leftIH rightIH =>
      obtain ⟨levels, left⟩ := leftIH
      obtain ⟨others, right⟩ := rightIH
      exact ⟨max levels others, .product (left.atDepth (Nat.le_max_left ..)) sign staged
        (right.atDepth (Nat.le_max_right ..))⟩
  | term _ ih =>
      obtain ⟨levels, derived⟩ := ih
      exact ⟨levels, .term derived⟩
  | sum _ sign staged _ leftIH rightIH =>
      obtain ⟨levels, left⟩ := leftIH
      obtain ⟨others, right⟩ := rightIH
      exact ⟨max levels others, .sum (left.atDepth (Nat.le_max_left ..)) sign staged
        (right.atDepth (Nat.le_max_right ..))⟩
  | plain _ ih =>
      obtain ⟨levels, derived⟩ := ih
      exact ⟨levels + 1, .plain derived⟩
  | assignment _ equals _ targetIH valueIH =>
      obtain ⟨levels, target⟩ := targetIH
      obtain ⟨others, value⟩ := valueIH
      exact ⟨max levels others + 1, .assignment (target.atDepth (Nat.le_max_left ..)) equals
        (value.atDepth (Nat.le_max_right ..))⟩

theorem Unlimited.exists_walks {tokens : List Token} {value : Expr}
    (derived : Unlimited tokens value) : ∃ checks, Walks .expression 0 tokens value checks := by
  obtain ⟨levels, derives⟩ := derived
  exact derives.exists_walks 0

theorem DerivesAction.exists_walks {tokens : List Token} {action : Action}
    (derived : DerivesAction Unlimited tokens action) :
    ∃ checks, WalksAction tokens action checks := by
  cases derived with
  | bare keyword name semicolon => exact ⟨_, .bare keyword name semicolon⟩
  | initialized keyword name equals value semicolon =>
      obtain ⟨checks, walks⟩ := value.exists_walks
      exact ⟨checks, .initialized keyword name equals walks semicolon⟩
  | expression value semicolon =>
      obtain ⟨checks, walks⟩ := value.exists_walks
      exact ⟨checks, .expression walks semicolon⟩

theorem WalksAction.derives {tokens : List Token} {action : Action} {checks : List Check}
    (walks : WalksAction tokens action checks) : DerivesAction Unlimited tokens action := by
  cases walks with
  | bare keyword name semicolon => exact .bare keyword name semicolon
  | initialized keyword name equals value semicolon =>
      exact .initialized keyword name equals value.exists_derives semicolon
  | expression value semicolon => exact .expression value.exists_derives semicolon

/-- The programs that a row of checks can be told for are those that the grammar derives when the
limits are left aside. -/
theorem derives_unlimited_iff_walks {tokens : List Token} {results : List Statement} :
    DerivesStatements Unlimited tokens results ↔
      ∃ checks, WalksStatements tokens results checks := by
  constructor
  · intro derived
    induction derived with
    | nil => exact ⟨[], .nil⟩
    | last value =>
        obtain ⟨checks, walks⟩ := value.exists_walks
        exact ⟨checks, .last walks⟩
    | cons first _ ih =>
        obtain ⟨earlier, walks⟩ := first.exists_walks
        obtain ⟨later, walksLater⟩ := ih
        exact ⟨earlier ++ later, .cons walks walksLater⟩
  · intro walked
    obtain ⟨checks, walks⟩ := walked
    induction walks with
    | nil => exact .nil
    | last value => exact .last value.exists_derives
    | cons first _ ih => exact .cons first.derives ih

/-! ## What becomes of a reading -/

/-- An error arises somewhere on the way from one state of a stream. -/
def Arises (Failure : Token → List Token → SyntaxError → Prop) (before : TokenStream)
    (error : SyntaxError) : Prop :=
  ∃ front middle, Reads before front middle ∧ Failure middle.current front error

section Arises

variable {Failure Other : Token → List Token → SyntaxError → Prop} {before middle : TokenStream}
  {tokens : List Token} {error : SyntaxError}

/-- What is read first is put in front of the tokens that fail. -/
theorem Arises.map (arises : Arises Failure middle error) (read : Reads before tokens middle)
    (change : ∀ {next front}, Failure next front error → Other next (tokens ++ front) error) :
    Arises Other before error := by
  obtain ⟨front, last, frontRead, failure⟩ := arises
  exact ⟨tokens ++ front, last, read.trans frontRead, change failure⟩

theorem Arises.imp (arises : Arises Failure before error)
    (change : ∀ {next front}, Failure next front error → Other next front error) :
    Arises Other before error :=
  arises.map (.refl before) change

end Arises

/-- A reading is accepted if all of its checks pass. If some fail, the first of them just fails and
gives the error. -/
inductive Verdict (nesting : Nat) (checks : List Check) (Accepted : Prop)
    (Failure : Token → List Token → SyntaxError → Prop) (before : TokenStream) : Prop where
  | kept : firstFailed? nesting checks = none → Accepted →
      Verdict nesting checks Accepted Failure before
  | exceeded {check : Check} : firstFailed? nesting checks = some check →
      check.JustFails nesting → Arises Failure before check.error →
      Verdict nesting checks Accepted Failure before

theorem firstFailed?_append (nesting : Nat) (earlier later : List Check) :
    firstFailed? nesting (earlier ++ later) =
      (firstFailed? nesting earlier).or (firstFailed? nesting later) :=
  List.find?_append

section Verdict

variable {nesting : Nat} {earlier later checks : List Check} {Accepted Other : Prop}
  {Failure OtherFailure : Token → List Token → SyntaxError → Prop} {before middle : TokenStream}
  {tokens : List Token}

/-- What is accepted is followed by a further reading, whose verdict is then that of both. -/
theorem Verdict.andThen (verdict : Verdict nesting earlier Accepted Failure before)
    (change : ∀ {next front error}, Failure next front error → OtherFailure next front error)
    (further : Accepted → Verdict nesting later Other OtherFailure before) :
    Verdict nesting (earlier ++ later) Other OtherFailure before := by
  cases verdict with
  | kept passed accepted =>
      cases further accepted with
      | kept passedLater kept =>
          exact .kept (by simp [firstFailed?_append, passed, passedLater]) kept
      | exceeded failed just arises =>
          exact .exceeded (by simp [firstFailed?_append, passed, failed]) just arises
  | exceeded failed just arises =>
      exact .exceeded (by simp [firstFailed?_append, failed]) just (arises.imp change)

/-- A reading behind others, which are put in front of it. -/
theorem Verdict.behind (verdict : Verdict nesting checks Accepted Failure middle)
    (read : Reads before tokens middle) (accepted : Accepted → Other)
    (change : ∀ {next front error}, Failure next front error →
      OtherFailure next (tokens ++ front) error) :
    Verdict nesting checks Other OtherFailure before := by
  cases verdict with
  | kept passed kept => exact .kept passed (accepted kept)
  | exceeded failed just arises => exact .exceeded failed just (arises.map read change)

theorem Verdict.imp (verdict : Verdict nesting checks Accepted Failure before)
    (accepted : Accepted → Other)
    (change : ∀ {next front error}, Failure next front error → OtherFailure next front error) :
    Verdict nesting checks Other OtherFailure before :=
  verdict.behind (.refl before) accepted change

/-- A single check. -/
theorem Verdict.check {check : Check} (accepted : check.passes nesting = true → Other)
    (failed : check.passes nesting = false →
      check.JustFails nesting ∧ Arises Failure before check.error) :
    Verdict nesting [check] Other Failure before := by
  cases passes : check.passes nesting with
  | true => exact .kept (by simp [firstFailed?, passes]) (accepted passes)
  | false =>
      obtain ⟨just, arises⟩ := failed passes
      exact .exceeded (by simp [firstFailed?, passes]) just arises

end Verdict

/-- The levels that a stage may still enter and those around it make up the limit. An expression is
itself one of those that it may enter. -/
def Stage.Shares (nesting depth levels : Nat) : Stage → Prop
  | expression => depth + levels = nesting
  | _ => depth + 1 + levels = nesting

/-- Where no levels are left no expression is entered, whatever it begins with. -/
theorem verdict_entry {nesting depth levels : Nat} (shares : depth + levels = nesting)
    {first : Token} {rest : List Token} {before after : TokenStream}
    (read : Reads before (first :: rest) after) :
    Verdict nesting [.entry depth first] (∃ fewer, levels = fewer + 1)
      (Fails · .expression levels) before := by
  refine .check (fun room => ?_) fun full => ?_
  · have below : depth < nesting := of_decide_eq_true room
    exact ⟨levels - 1, by omega⟩
  · have above : ¬ depth < nesting := of_decide_eq_false full
    obtain rfl : levels = 0 := by omega
    refine ⟨shares, [], before, .refl before, ?_⟩
    rw [← read.current_eq]
    exact .nesting

/-- A compound of parts that are not too high is too high by one at most. -/
theorem justFails_linked {nesting : Nat} {operator : Operator} {left right : Expr}
    (leftFits : left.height ≤ maxHeight) (rightFits : right.height ≤ maxHeight)
    (high : maxHeight < (Expr.linked operator left right).height) :
    (Check.node (.linked operator left right)).JustFails nesting := by
  refine ⟨trivial, ?_⟩
  rw [Expr.height_linked] at high ⊢
  omega

theorem justFails_assigned {nesting : Nat} {target value : Expr}
    (targetFits : target.height ≤ maxHeight) (valueFits : value.height ≤ maxHeight)
    (high : maxHeight < (Expr.assigned target value).height) :
    (Check.node (.assigned target value)).JustFails nesting := by
  refine ⟨trivial, ?_⟩
  rw [Expr.height_assigned] at high ⊢
  omega

/-- A derivation of any depth keeps to the limits if its checks pass, and else breaks off where the
first of them fails. -/
theorem Walks.verdict {stage : Stage} {nesting depth levels : Nat} {tokens : List Token}
    {tree : Expr} {checks : List Check} (walks : Walks stage depth tokens tree checks)
    (shares : stage.Shares nesting depth levels) {before after : TokenStream}
    (read : Reads before tokens after) (delimited : stage.Delimits after.current) :
    Verdict nesting checks (Admits stage levels tokens tree) (Fails · stage levels) before := by
  induction walks generalizing levels before after with
  | name kind => exact .kept rfl ⟨.name kind, one_le_maxHeight⟩
  | number kind numeral => exact .kept rfl ⟨.number kind numeral, one_le_maxHeight⟩
  | @group depth opening closing tokens tree checks opens _ closes ih =>
      obtain ⟨middle, openRead, closeRead⟩ := read.split
      have closeCurrent : middle.current.kind = .closeParen := closeRead.current_eq ▸ closes
      have ends : Stage.expression.Delimits middle.current :=
        Stage.delimits_of_kind _ (by simp [closeCurrent]) (by simp [closeCurrent])
      have opened := openRead.head (by simp [opens])
      exact (ih shares openRead.tail ends).behind opened
        (fun inner => ⟨.group opens inner.derives closes, inner.fits⟩) (.group opens)
  | factor _ ih =>
      exact (ih shares read trivial).imp (fun operand => ⟨.factor operand.derives, operand.fits⟩) .factor
  | @product depth lefts rights sign operator leftTree rightTree earlier later _ denotes staged _
      leftIH rightIH =>
      obtain ⟨middle, leftRead, rightRead⟩ := read.split
      have signRead := leftRead.trans (rightRead.head (by simp [denotes.1]))
      rw [List.append_assoc]
      refine (leftIH shares leftRead trivial).andThen id fun left => ?_
      refine ((rightIH shares rightRead.tail trivial).behind signRead id fun failure => ?_).andThen id
        fun right => .check (fun fits => ?_) fun unfit => ?_
      · simpa using Fails.product left denotes staged failure
      · exact ⟨.product left.derives denotes staged right.derives, of_decide_eq_true fits⟩
      · have high := Nat.lt_of_not_le (of_decide_eq_false unfit)
        exact ⟨justFails_linked left.fits right.fits high,
          _, after, read, .highProduct left denotes staged right high⟩
  | term _ ih =>
      exact (ih shares read trivial).imp (fun operand => ⟨.term operand.derives, operand.fits⟩) .term
  | @sum depth lefts rights sign operator leftTree rightTree earlier later _ denotes staged _
      leftIH rightIH =>
      obtain ⟨middle, leftRead, rightRead⟩ := read.split
      have signed : Denotes middle.current operator := rightRead.current_eq ▸ denotes
      have signRead := leftRead.trans (rightRead.head (by simp [denotes.1]))
      rw [List.append_assoc]
      refine (leftIH shares leftRead (signed.not_multiplicative staged)).andThen id fun left => ?_
      refine ((rightIH shares rightRead.tail trivial).behind signRead id fun failure => ?_).andThen id
        fun right => .check (fun fits => ?_) fun unfit => ?_
      · simpa using Fails.sum left denotes staged failure
      · exact ⟨.sum left.derives denotes staged right.derives, of_decide_eq_true fits⟩
      · have high := Nat.lt_of_not_le (of_decide_eq_false unfit)
        exact ⟨justFails_linked left.fits right.fits high,
          _, after, read, .highSum left denotes staged right delimited high⟩
  | @plain depth first rest tree checks _ ih =>
      refine (verdict_entry shares read).andThen id fun room => ?_
      obtain ⟨fewer, rfl⟩ := room
      have inner : Stage.additive.Shares nesting depth fewer := shares.symm ▸ Nat.add_right_comm ..
      exact (ih inner read delimited.1).imp (fun operand => ⟨.plain operand.derives, operand.fits⟩)
        .target
  | @assignment depth first equals targets values targetTree valueTree earlier later _ isEquals _
      targetIH valueIH =>
      obtain ⟨middle, targetRead, valueRead⟩ := read.split
      have equalsKind : middle.current.kind = .equals := valueRead.current_eq ▸ isEquals
      have noFactor : Stage.additive.Delimits middle.current :=
        operatorOf?_eq_none_of_kind (by simp [equalsKind])
      have equalsRead := targetRead.trans (valueRead.head (by simp [isEquals]))
      change Verdict nesting ([_] ++ (earlier ++ later ++ [_])) _ _ _
      rw [List.append_assoc earlier]
      refine (verdict_entry shares read).andThen id fun room => ?_
      obtain ⟨fewer, rfl⟩ := room
      have inner : Stage.additive.Shares nesting depth fewer := shares.symm ▸ Nat.add_right_comm ..
      refine (targetIH inner targetRead noFactor).andThen .target fun target => ?_
      refine ((valueIH inner valueRead.tail delimited).behind equalsRead id fun failure => ?_).andThen id
        fun value => .check (fun fits => ?_) fun unfit => ?_
      · rw [List.append_assoc]
        exact .value target isEquals failure
      · exact ⟨.assignment target.derives isEquals value.derives, of_decide_eq_true fits⟩
      · have high := Nat.lt_of_not_le (of_decide_eq_false unfit)
        exact ⟨justFails_assigned target.fits value.fits high,
          _, after, read, .highAssignment target isEquals value delimited high⟩

/-! ## Statements -/

section Statements

variable {tokens : List Token} {checks : List Check} {before after : TokenStream}

theorem Walks.expression_verdict {value : Expr} (walks : Walks .expression 0 tokens value checks)
    (read : Reads before tokens after) (operator : after.current.kind ≠ .operator)
    (equals : after.current.kind ≠ .equals) :
    Verdict maxNesting checks (Limited tokens value) (Fails · .expression maxNesting) before :=
  walks.verdict (Nat.zero_add maxNesting) read (Stage.delimits_of_kind _ operator equals)

theorem Walks.startsPlain {value : Expr} (walks : Walks .expression 0 tokens value checks)
    (read : Reads before tokens after) (constant : Bool) :
    before.current.kind ≠ keywordKind constant := by
  obtain ⟨levels, derived⟩ := walks.exists_derives
  obtain ⟨first, rest, rfl, -⟩ := derived.exists_first
  rw [read.current_eq]
  exact plain_of_inner (derived.inner first List.mem_cons_self) constant

/-- An expression that exceeds a limit makes its statement exceed it. -/
theorem Arises.expression {error : SyntaxError}
    (arises : Arises (Fails · .expression maxNesting) before error)
    (plain : ∀ constant, before.current.kind ≠ keywordKind constant) :
    Arises FailsStatement before error := by
  obtain ⟨front, middle, read, failure⟩ := arises
  refine ⟨front, middle, read, .expression failure fun constant keyword empty => ?_⟩
  subst empty
  cases read.eq_of_nil
  exact plain constant keyword

theorem Arises.first {error : SyntaxError} (arises : Arises FailsStatement before error)
    (unfinished : before.current.kind ≠ .endOfFile) : Arises FailsStatements before error := by
  obtain ⟨front, middle, read, failure⟩ := arises
  refine ⟨front, middle, read, .first failure fun finished empty => ?_⟩
  subst empty
  cases read.eq_of_nil
  exact unfinished finished

theorem WalksAction.verdict {action : Action} (walks : WalksAction tokens action checks)
    (read : Reads before tokens after) :
    Verdict maxNesting checks (DerivesAction Limited tokens action) FailsStatement before := by
  cases walks with
  | bare keyword name semicolon => exact .kept rfl (.bare keyword name semicolon)
  | initialized keyword name isEquals value semicolon =>
      obtain ⟨middle, valueRead, endRead⟩ := read.split
      have ended := endRead.current_eq
      have started := valueRead.head (by simp [keyword, keywordKind_ne_endOfFile])
      have named := started.trans (valueRead.tail.head (by simp [name]))
      have valued := named.trans (valueRead.tail.tail.head (by simp [isEquals]))
      have verdict := value.expression_verdict valueRead.tail.tail.tail (by simp [ended, semicolon])
        (by simp [ended, semicolon])
      exact verdict.behind valued (.initialized keyword name isEquals · semicolon)
        (.value keyword name isEquals)
  | expression value semicolon =>
      obtain ⟨middle, valueRead, endRead⟩ := read.split
      have ended := endRead.current_eq
      cases value.expression_verdict valueRead (by simp [ended, semicolon])
        (by simp [ended, semicolon]) with
      | kept passed limited => exact .kept passed (.expression limited semicolon)
      | exceeded failed just arises =>
          exact .exceeded failed just (arises.expression (value.startsPlain valueRead))

/-- A program of any depth is accepted if its checks pass, and else rejected for the first that
fails. -/
theorem WalksStatements.verdict {results : List Statement}
    (walks : WalksStatements tokens results checks) (read : Reads before tokens after)
    (finished : after.current.kind = .endOfFile) :
    Verdict maxNesting checks (DerivesStatements Limited tokens results) FailsStatements before := by
  induction walks generalizing before with
  | nil => exact .kept rfl .nil
  | last value =>
      cases value.expression_verdict read (by simp [finished]) (by simp [finished]) with
      | kept passed limited => exact .kept passed (.last limited)
      | exceeded failed just arises =>
          obtain ⟨levels, derived⟩ := value.exists_derives
          exact .exceeded failed just ((arises.expression (value.startsPlain read)).first
            (read.unfinished derived.ne_nil derived.proper))
  | cons first _ ih =>
      obtain ⟨middle, firstRead, restRead⟩ := read.split
      have proper := first.derives.proper Unlimited.proper
      have unfinished := firstRead.unfinished first.derives.ne_nil proper
      cases first.verdict firstRead with
      | kept passed limited =>
          have verdict : Verdict maxNesting _ (DerivesAction Limited _ _) FailsStatements before :=
            .kept passed limited
          exact verdict.andThen id fun limited =>
            (ih restRead).behind firstRead (.cons limited) (.later limited)
      | exceeded failed just arises =>
          exact .exceeded (by simp [firstFailed?_append, failed]) just (arises.first unfinished)

/-- Tokens that derive a program, limits aside, are rejected for a limit if at all. -/
theorem DerivesStatements.tooDeep_of_rejected {results : List Statement}
    (derived : DerivesStatements Unlimited tokens results) (read : Reads before tokens after)
    (finished : after.current.kind = .endOfFile) {error : SyntaxError}
    (rejected : statements before = .error error) : TooDeep error := by
  obtain ⟨checks, walks⟩ := derives_unlimited_iff_walks.mp derived
  cases walks.verdict read finished with
  | kept _ limited => cases (limited.statements_eq read finished).symm.trans rejected
  | @exceeded check _ _ arises =>
      obtain ⟨front, middle, frontRead, fails⟩ := arises
      cases (fails.statements_eq frontRead).symm.trans rejected
      cases check <;> exact ⟨_, rfl⟩

end Statements

end Grammar

end CalcScript
