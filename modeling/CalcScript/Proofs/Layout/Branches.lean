import CalcScript.Proofs.Layout.Nodes
import CalcScript.Proofs.Layout.Spans
import CalcScript.Proofs.Lexing.Places

/-!
# Trees follow their text

The tokens of a text rise: each stops before the next one starts. So do the trees that are derived
from them. A node lies inside the one it is part of and inside its statement, the left of two parts
stops before the right one starts, and the leaves come in the order of their tokens.
-/

set_option autoImplicit false

namespace CalcScript

namespace Span

open Position

/-- A span that starts no earlier than another and stops no later. -/
structure Inside (inner outer : Span) : Prop where
  start : (compare outer.start inner.start).isLE = true
  stop : (compare inner.stop outer.stop).isLE = true

/-- A span that stops before another starts, or where it does. -/
def Before (earlier later : Span) : Prop := (compare earlier.stop later.start).isLE = true

/-- A span that is not empty. -/
def Proper (span : Span) : Prop := span.start.offset < span.stop.offset

variable {left right span : Span}

theorem inside_join_left (left right : Span) : left.Inside (left.join right) where
  start := earlier_isLE_left left.start right.start
  stop := isLE_later_left left.stop right.stop

theorem inside_join_right (left right : Span) : right.Inside (left.join right) where
  start := earlier_isLE_right left.start right.start
  stop := isLE_later_right left.stop right.stop

theorem Inside.join (inLeft : left.Inside span) (inRight : right.Inside span) :
    (left.join right).Inside span where
  start := earlier_good (fun place => (compare span.start place).isLE = true) inLeft.start
    inRight.start
  stop := later_good (fun place => (compare place span.stop).isLE = true) inLeft.stop inRight.stop

theorem Before.join_before (first : left.Before span) (second : right.Before span) :
    (left.join right).Before span :=
  later_good (fun place => (compare place span.start).isLE = true) first second

theorem Before.before_join (first : span.Before left) (second : span.Before right) :
    span.Before (left.join right) :=
  earlier_good (fun place => (compare span.stop place).isLE = true) first second

theorem Proper.isLE (proper : span.Proper) : (compare span.start span.stop).isLE = true :=
  isLE_of_offset_lt proper

end Span

/-! ## Rising tokens -/

/-- Tokens that stand one behind the other. -/
structure Token.Rising (tokens : List Token) : Prop where
  ordered : tokens.Pairwise fun earlier later => earlier.span.Before later.span
  proper : ∀ token ∈ tokens, token.span.Proper

theorem Token.Rising.sublist {tokens part : List Token} (rising : Rising tokens)
    (within : part.Sublist tokens) : Rising part :=
  ⟨rising.ordered.sublist within, fun token among => rising.proper token (within.subset among)⟩

theorem Token.Rising.within {tokens part : List Token} (rising : Rising tokens)
    (inside : part <:+: tokens) : Rising part :=
  rising.sublist inside.sublist

theorem Token.Splits.ordered {place : Position} {characters : List Char} {tokens : List Token}
    (splits : Splits place characters tokens) :
    tokens.Pairwise fun earlier later => earlier.span.Before later.span := by
  induction splits with
  | stop => exact List.pairwise_singleton _ _
  | token _ _ later ih =>
      refine List.pairwise_cons.mpr ⟨fun token among => ?_, ih⟩
      obtain ⟨front, run, -, -, span, -⟩ := later.exists_run token among
      rw [span]
      exact Position.isLE_advance _ front

theorem Token.Splits.rising {place : Position} {characters : List Char} {tokens : List Token}
    (splits : Splits place characters tokens) : Rising tokens.dropLast where
  ordered := splits.ordered.sublist (List.dropLast_sublist tokens)
  proper := by
    intro token among
    obtain ⟨front, run, -, -, span, word⟩ :=
      splits.exists_run token (List.dropLast_subset _ among)
    have nonempty := (word (splits.proper_of_mem_dropLast token among)).2
    have positive := Text.byteLength_pos nonempty
    rw [span, Span.Proper, Position.offset_advance, Position.offset_advance,
      Text.byteLength_append]
    omega

namespace Grammar

open Token

variable {tokens : List Token}

theorem stop_isLE_lastSpan {first : Token} {rest : List Token} (rising : Rising (first :: rest)) :
    (compare first.span.stop (lastSpan first.span rest).stop).isLE = true := by
  induction rest generalizing first with
  | nil => exact Position.isLE_refl _
  | cons second rest ih =>
      have behind := List.rel_of_pairwise_cons rising.ordered List.mem_cons_self
      have inner := (rising.proper second (by simp)).isLE
      exact Position.isLE_trans (Position.isLE_trans behind inner)
        (ih (rising.sublist (List.sublist_cons_self first _)))

theorem inside_covering (rising : Rising tokens) :
    ∀ token ∈ tokens, token.span.Inside (covering tokens) := by
  intro token among
  obtain ⟨before, after, rfl⟩ := List.append_of_mem among
  have last := stop_isLE_lastSpan (rising.sublist (List.sublist_append_right before _))
  cases before with
  | nil =>
      constructor
      · exact Position.earlier_isLE_left _ _
      · exact Position.isLE_trans last (Position.isLE_later_right _ _)
  | cons first before =>
      have behind := List.rel_of_pairwise_cons rising.ordered
        (List.mem_append_right before List.mem_cons_self)
      have inner := (rising.proper first List.mem_cons_self).isLE
      have same : lastSpan first.span (before ++ token :: after) = lastSpan token.span after := by
        rw [lastSpan, List.foldl_append]
        rfl
      constructor
      · exact Position.isLE_trans (Position.earlier_isLE_left _ _)
          (Position.isLE_trans inner behind)
      · rw [← same] at last
        exact Position.isLE_trans last (Position.isLE_later_right _ _)

theorem covering_start {first : Token} {rest : List Token} (rising : Rising (first :: rest)) :
    (covering (first :: rest)).start = first.span.start := by
  refine if_pos (lastSpan_good (fun span => (compare first.span.start span.start).isLE = true)
    (Position.isLE_refl _) fun token among => ?_)
  have inner := (rising.proper first List.mem_cons_self).isLE
  exact Position.isLE_trans inner (List.rel_of_pairwise_cons rising.ordered among)

theorem covering_stop {first : Token} {rest : List Token} (rising : Rising (first :: rest)) :
    (covering (first :: rest)).stop = (lastSpan first.span rest).stop :=
  if_pos (stop_isLE_lastSpan rising)

/-! Where the parts of a rule stand in the whole. -/

theorem infix_group (opening closing : Token) : tokens <:+: opening :: tokens ++ [closing] :=
  ⟨[opening], [closing], rfl⟩

theorem infix_left (lefts rights : List Token) (sign : Token) :
    lefts <:+: lefts ++ sign :: rights :=
  (List.prefix_append _ _).isInfix

theorem infix_right (lefts rights : List Token) (sign : Token) :
    rights <:+: lefts ++ sign :: rights :=
  ⟨lefts ++ [sign], [], by simp⟩

/-- What one run of tokens derives stops before what a later run derives starts. -/
theorem Derives.before {stage inner : Stage} {levels depth : Nat} {lefts rights : List Token}
    {left right : Expr} (leftDerived : Derives stage levels lefts left)
    (rightDerived : Derives inner depth rights right)
    (ordered : ∀ earlier ∈ lefts, ∀ later ∈ rights, earlier.span.Before later.span) :
    left.span.Before right.span := by
  refine rightDerived.good_spans (left.span.Before ·) Span.Before.before_join
    (fun later among => ?_) _ right.span_mem_spans
  exact leftDerived.good_spans (·.Before later.span) Span.Before.join_before
    (fun earlier before => ordered earlier before later among) _ left.span_mem_spans

end Grammar

/-- A node with its parts inside it and one behind the other. -/
def Expr.Ordered : Expr → Prop
  | number _ _ | name _ _ => True
  | binary _ left right span | assignment left right span =>
    left.span.Inside span ∧ right.span.Inside span ∧ left.span.Before right.span

namespace Grammar

open Token

variable {tokens : List Token}

theorem Derives.ordered {stage : Stage} {levels : Nat} {tree : Expr}
    (derived : Derives stage levels tokens tree) (rising : Rising tokens) :
    ∀ node ∈ tree.nodes, node.Ordered := by
  induction derived with
  | name | number => exact List.forall_mem_singleton.mpr trivial
  | group _ _ _ ih =>
      exact ih (rising.within (infix_group _ _))
  | factor _ ih | term _ ih | plain _ ih => exact ih rising
  | @product _ lefts rights sign _ left right leftDerived _ _ rightDerived leftIH rightIH
  | @sum _ lefts rights sign _ left right leftDerived _ _ rightDerived leftIH rightIH
  | @assignment _ lefts rights sign left right leftDerived _ rightDerived leftIH rightIH =>
      have apart := (List.pairwise_append.mp rising.ordered).2.2
      have before := leftDerived.before rightDerived fun earlier inLeft later inRight =>
        apart earlier inLeft later (List.mem_cons_of_mem _ inRight)
      have parts := List.forall_mem_append.mpr
        ⟨leftIH (rising.within (infix_left _ _ _)), rightIH (rising.within (infix_right _ _ _))⟩
      exact List.forall_mem_cons.mpr
        ⟨⟨Span.inside_join_left _ _, Span.inside_join_right _ _, before⟩, parts⟩

theorem DerivesStatements.ordered {statements : List Statement}
    (derived : DerivesStatements Limited tokens statements) (rising : Rising tokens) :
    ∀ node ∈ (statements.flatMap fun statement => statement.action.nodes), node.Ordered := by
  intro node among
  obtain ⟨part, value, inside, admitted, inValue⟩ := derived.exists_value among
  exact admitted.derives.ordered (rising.within inside) node inValue

theorem DerivesStatements.inside {statements : List Statement}
    (derived : DerivesStatements Limited tokens statements) (rising : Rising tokens) :
    ∀ statement ∈ statements, ∀ span ∈ statement.action.spans, span.Inside statement.span := by
  induction derived with
  | nil => exact List.forall_mem_nil _
  | last value =>
      refine List.forall_mem_singleton.mpr ?_
      exact value.derives.good_spans (·.Inside _) Span.Inside.join (inside_covering rising)
  | cons first _ ih =>
      have risingFirst := rising.sublist (List.sublist_append_left _ _)
      refine List.forall_mem_cons.mpr
        ⟨?_, ih (rising.sublist (List.sublist_append_right _ _))⟩
      exact first.good_spans (·.Inside _) Span.Inside.join (inside_covering risingFirst)

end Grammar

/-- A program whose spans are nested and ordered like its trees. -/
structure Program.Follows (program : Program) (tokens : List Token) : Prop where
  /-- The leaves are the names and numbers among the tokens, one for one and in order. -/
  leaves : List.Forall₂ Token.Becomes (tokens.filter Token.isOperand) program.leaves
  rising : program.leaves.Pairwise fun earlier later => earlier.span.Before later.span
  proper : ∀ leaf ∈ program.leaves, leaf.span.Proper
  ordered : ∀ node ∈ program.nodes, node.Ordered
  inside : ∀ statement ∈ program.statements, ∀ span ∈ statement.action.spans,
    span.Inside statement.span

theorem Token.map_span_of_becomes {tokens : List Token} {leaves : List Expr}
    (become : List.Forall₂ Becomes tokens leaves) :
    leaves.map Expr.span = tokens.map Token.span := by
  induction become with
  | nil => rfl
  | cons becomes _ ih => rw [List.map_cons, List.map_cons, becomes.span_eq, ih]

theorem Program.follows_source {source : String} {tokens : List Token} {program : Program}
    (scanned : Token.scan source = .ok tokens) (formed : Program.ofSource source = .ok program) :
    program.Follows tokens := by
  have splits := Token.scan_eq_ok_iff.mp scanned
  obtain ⟨same, again, derived⟩ := Program.ofSource_eq_ok_iff_derives.mp formed
  cases again.symm.trans scanned
  have rising := splits.rising
  have operands : tokens.filter Token.isOperand = tokens.dropLast.filter Token.isOperand := by
    rw [splits.eq_concat_end, List.dropLast_concat]
    exact Grammar.filter_isOperand_concat (by simp [Token.isOperand, Token.endOfFile])
  have leaves : List.Forall₂ Token.Becomes (tokens.filter Token.isOperand) program.leaves :=
    operands ▸ derived.leaves
  have places := Token.map_span_of_becomes leaves
  have risingLeaves := rising.sublist (List.filter_sublist (p := Token.isOperand))
  rw [← operands] at risingLeaves
  constructor
  case leaves => exact leaves
  case rising =>
    have spans := List.pairwise_map.mpr risingLeaves.ordered
    rw [← places] at spans
    exact List.pairwise_map.mp spans
  case proper =>
    have spans := List.forall_mem_map.mpr risingLeaves.proper
    rw [← places] at spans
    exact List.forall_mem_map.mp spans
  case ordered => exact derived.ordered rising
  case inside => exact derived.inside rising

/-- Both operands are grouped, and the second is on another line. -/
theorem Program.follows_grouped_operands :
    ∃ tokens program, Token.scan "(a)\n* (b + c)" = .ok tokens ∧
      Program.ofSource "(a)\n* (b + c)" = .ok program ∧
      program.nodes.map Expr.span =
        [⟨⟨1, 1, 2⟩, ⟨12, 2, 9⟩⟩, ⟨⟨1, 1, 2⟩, ⟨2, 1, 3⟩⟩, ⟨⟨7, 2, 4⟩, ⟨12, 2, 9⟩⟩,
          ⟨⟨7, 2, 4⟩, ⟨8, 2, 5⟩⟩, ⟨⟨11, 2, 8⟩, ⟨12, 2, 9⟩⟩] ∧
      program.Follows tokens := by
  have scanned : Token.scan "(a)\n* (b + c)" = .ok
      [⟨.openParen, "(", ⟨0, 1, 1⟩, ⟨1, 1, 2⟩⟩, ⟨.identifier, "a", ⟨1, 1, 2⟩, ⟨2, 1, 3⟩⟩,
        ⟨.closeParen, ")", ⟨2, 1, 3⟩, ⟨3, 1, 4⟩⟩, ⟨.operator, "*", ⟨4, 2, 1⟩, ⟨5, 2, 2⟩⟩,
        ⟨.openParen, "(", ⟨6, 2, 3⟩, ⟨7, 2, 4⟩⟩, ⟨.identifier, "b", ⟨7, 2, 4⟩, ⟨8, 2, 5⟩⟩,
        ⟨.operator, "+", ⟨9, 2, 6⟩, ⟨10, 2, 7⟩⟩, ⟨.identifier, "c", ⟨11, 2, 8⟩, ⟨12, 2, 9⟩⟩,
        ⟨.closeParen, ")", ⟨12, 2, 9⟩, ⟨13, 2, 10⟩⟩, .endOfFile ⟨13, 2, 10⟩] :=
    ok_of_toOption_eq_some (by decide +kernel)
  have name {levels : Nat} (text : String) (span : Span) : Grammar.Derives .multiplicative levels
      [⟨.identifier, text, span⟩] (.name text span) := .factor (.name rfl)
  have plus : Grammar.Denotes ⟨.operator, "+", ⟨9, 2, 6⟩, ⟨10, 2, 7⟩⟩ .add := ⟨rfl, rfl⟩
  have times : Grammar.Denotes ⟨.operator, "*", ⟨4, 2, 1⟩, ⟨5, 2, 2⟩⟩ .multiply := ⟨rfl, rfl⟩
  have first : Grammar.Derives .multiplicative 127
      (⟨.openParen, "(", ⟨0, 1, 1⟩, ⟨1, 1, 2⟩⟩ :: [⟨.identifier, "a", ⟨1, 1, 2⟩, ⟨2, 1, 3⟩⟩] ++
        [⟨.closeParen, ")", ⟨2, 1, 3⟩, ⟨3, 1, 4⟩⟩]) _ :=
    .factor (.group rfl (.plain (.term (name _ _))) rfl)
  have second : Grammar.Derives .primary 127
      (⟨.openParen, "(", ⟨6, 2, 3⟩, ⟨7, 2, 4⟩⟩ :: _ ++
        [⟨.closeParen, ")", ⟨12, 2, 9⟩, ⟨13, 2, 10⟩⟩]) _ :=
    .group rfl (.plain (.sum (.term (name "b" ⟨⟨7, 2, 4⟩, ⟨8, 2, 5⟩⟩)) plus rfl
      (name "c" ⟨⟨11, 2, 8⟩, ⟨12, 2, 9⟩⟩))) rfl
  have product : Grammar.Limited _ _ :=
    ⟨.plain (.term (.product first times rfl second)), by decide⟩
  have formed := Program.ofSource_eq_ok_iff_derives.mpr ⟨_, scanned, .last product⟩
  exact ⟨_, _, scanned, formed, by decide, Program.follows_source scanned formed⟩

end CalcScript
