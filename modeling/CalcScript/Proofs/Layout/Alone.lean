import CalcScript.Proofs.Grammar.Limits
import CalcScript.Proofs.Grammar.Parentheses
import CalcScript.Proofs.Layout.Branches
import CalcScript.Proofs.Lexing.Cuts

/-!
# Nodes read by themselves

Parentheses leave no node, and a node takes its span from its parts. So the parentheses around its
first or its last operand do not belong to it, while those between its operands do. The text of a
node has then lost the partners of some of its parentheses and is no program. If no partner is lost,
the text read by itself is the node again.
-/

set_option autoImplicit false

namespace CalcScript

open Position Token Grammar

namespace Grammar

variable {tokens : List Token}

theorem covering_join {lefts middle rights : List Token}
    (rising : Rising (lefts ++ (middle ++ rights))) (nonemptyLeft : lefts ≠ [])
    (nonemptyRight : rights ≠ []) :
    (covering lefts).join (covering rights) = covering (lefts ++ (middle ++ rights)) := by
  have inside := inside_covering rising
  have left := covering_good (·.Inside _) Span.Inside.join nonemptyLeft fun token among =>
    inside token (List.mem_append_left _ among)
  have right := covering_good (·.Inside _) Span.Inside.join nonemptyRight fun token among =>
    inside token (List.mem_append_right _ (List.mem_append_right _ among))
  obtain ⟨first, lefts, rfl⟩ := List.exists_cons_of_ne_nil nonemptyLeft
  obtain ⟨second, rights, rfl⟩ := List.exists_cons_of_ne_nil nonemptyRight
  have start : (covering (first :: lefts)).start = first.span.start :=
    covering_start (rising.sublist (List.sublist_append_left _ _))
  have last := (List.sublist_append_right middle (second :: rights)).trans
    (List.sublist_append_right (first :: lefts) _)
  change Rising (first :: (lefts ++ (middle ++ second :: rights))) at rising
  have stop : (covering (first :: (lefts ++ (middle ++ second :: rights)))).stop =
      (covering (second :: rights)).stop := by
    rw [covering_stop rising, covering_stop (rising.sublist last), lastSpan, List.foldl_append,
      List.foldl_append]
    rfl
  have whole : (covering (first :: (lefts ++ (middle ++ second :: rights)))).start =
      (covering (first :: lefts)).start := (covering_start rising).trans start.symm
  refine congrArg₂ Span.mk ?_ ?_
  · exact (if_pos (whole ▸ right.start)).trans whole.symm
  · exact (if_pos (stop ▸ left.stop)).trans stop.symm

/-! ## Parentheses at the ends -/

/-- A run for a tree whose span leaves out parentheses at both ends of the run. -/
structure Fringed (tokens : List Token) (tree : Expr) (opens inner closes : List Token) : Prop where
  split : tokens = opens ++ (inner ++ closes)
  opening : ∀ token ∈ opens, token.kind = .openParen
  closing : ∀ token ∈ closes, token.kind = .closeParen
  nonempty : inner ≠ []
  span : tree.span = covering inner

theorem covering_singleton (token : Token) : covering [token] = token.span := by
  rw [covering, lastSpan, List.foldl_nil, Span.join, Position.earlier, Position.later, ite_self,
    ite_self]

theorem Fringed.inside {tree : Expr} {opens inner closes : List Token}
    (fringed : Fringed tokens tree opens inner closes) : inner <:+: tokens :=
  ⟨opens, closes, (List.append_assoc ..).trans fringed.split.symm⟩

theorem Fringed.refl {tree : Expr} (nonempty : tokens ≠ []) (span : tree.span = covering tokens) :
    Fringed tokens tree [] tokens [] :=
  ⟨by simp, List.forall_mem_nil _, List.forall_mem_nil _, nonempty, span⟩

theorem Fringed.group {tree : Expr} {opens inner closes : List Token}
    (fringed : Fringed tokens tree opens inner closes) {opening closing : Token}
    (isOpen : opening.kind = .openParen) (isClose : closing.kind = .closeParen) :
    Fringed (opening :: tokens ++ [closing]) tree (opening :: opens) inner
      (closes ++ [closing]) where
  split := by simp [fringed.split]
  opening := List.forall_mem_cons.mpr ⟨isOpen, fringed.opening⟩
  closing := List.forall_mem_append.mpr
    ⟨fringed.closing, List.forall_mem_singleton.mpr isClose⟩
  nonempty := fringed.nonempty
  span := fringed.span

section Link

variable {lefts leftOpens leftInner leftCloses rights rightOpens rightInner rightCloses :
    List Token} {sign : Token} {left right node : Expr}

theorem Fringed.link (fringedLeft : Fringed lefts left leftOpens leftInner leftCloses)
    (fringedRight : Fringed rights right rightOpens rightInner rightCloses)
    (rising : Rising (lefts ++ sign :: rights)) (span : node.span = left.span.join right.span) :
    Fringed (lefts ++ sign :: rights) node leftOpens
      (leftInner ++ (leftCloses ++ sign :: rightOpens ++ rightInner)) rightCloses where
  split := by simp [fringedLeft.split, fringedRight.split]
  opening := fringedLeft.opening
  closing := fringedRight.closing
  nonempty := by simp
  span := by
    have inside : leftInner ++ (leftCloses ++ sign :: rightOpens ++ rightInner) <:+:
        lefts ++ sign :: rights :=
      ⟨leftOpens, rightCloses, by simp [fringedLeft.split, fringedRight.split]⟩
    rw [span, fringedLeft.span, fringedRight.span,
      covering_join (rising.within inside) fringedLeft.nonempty fringedRight.nonempty]

/-- Parentheses at the ends of a linked run have their partners further inside. -/
theorem Fringed.whole_of_balanced
    (fringedLeft : Fringed lefts left leftOpens leftInner leftCloses)
    (fringedRight : Fringed rights right rightOpens rightInner rightCloses)
    (balancedLeft : Token.Balanced lefts) (balancedRight : Token.Balanced rights)
    (other : sign.kind ≠ .openParen ∧ sign.kind ≠ .closeParen)
    (balanced : Token.Balanced (leftInner ++ (leftCloses ++ sign :: rightOpens ++ rightInner))) :
    leftOpens = [] ∧ rightCloses = [] := by
  have parts : leftInner ++ (leftCloses ++ sign :: rightOpens ++ rightInner) =
      (leftInner ++ leftCloses) ++ sign :: (rightOpens ++ rightInner) := by simp
  rw [Token.Balanced, parts] at balanced
  obtain ⟨depth, front, back⟩ := foldlM_depth?_append.mp balanced
  rw [foldlM_depth?_cons rfl other] at back
  rw [fringedLeft.split] at balancedLeft
  obtain rfl := balancedLeft.opens_eq_nil fringedLeft.opening front
  -- what stands in front of the sign is now the whole left operand, which leaves nothing open
  cases front.symm.trans balancedLeft
  rw [fringedRight.split, ← List.append_assoc] at balancedRight
  exact ⟨rfl, balancedRight.closes_eq_nil fringedRight.closing back⟩

end Link

/-- Every run is fringed with the parentheses that its tree leaves out. -/
theorem Derives.exists_fringe {stage : Stage} {levels : Nat} {tree : Expr}
    (derived : Derives stage levels tokens tree) (rising : Rising tokens) :
    ∃ opens inner closes, Fringed tokens tree opens inner closes := by
  induction derived with
  | name | number =>
      exact ⟨_, _, _, .refl (List.cons_ne_nil _ _) (covering_singleton _).symm⟩
  | group opens _ closes ih =>
      obtain ⟨_, _, _, fringed⟩ := ih (rising.within (infix_group _ _))
      exact ⟨_, _, _, fringed.group opens closes⟩
  | factor _ ih | term _ ih | plain _ ih => exact ih rising
  | product _ _ _ _ leftIH rightIH | sum _ _ _ _ leftIH rightIH
  | assignment _ _ _ leftIH rightIH =>
      obtain ⟨_, _, _, left⟩ := leftIH (rising.within (infix_left _ _ _))
      obtain ⟨_, _, _, right⟩ := rightIH (rising.within (infix_right _ _ _))
      exact ⟨_, _, _, left.link right rising rfl⟩

/-! ## The runs of nodes -/

/-- A node is derived from a run of its own and covers the inner part of it, which is all of the run
unless parentheses lose their partners. -/
structure Owns (levels : Nat) (own inner : List Token) (node : Expr) : Prop where
  derives : Derives .expression levels own node
  inside : inner <:+: own
  nonempty : inner ≠ []
  span : node.span = covering inner
  whole : Token.Balanced inner → inner = own

theorem Owns.deeper {levels : Nat} {own inner : List Token} {node : Expr}
    (owns : Owns levels own inner node) : Owns (levels + 1) own inner node :=
  { owns with derives := owns.derives.deeper }

theorem owns_leaf {levels : Nat} {token : Token} {leaf : Expr}
    (derived : Derives .primary levels [token] leaf) (span : leaf.span = token.span) :
    Owns (levels + 1) [token] [token] leaf where
  derives := .plain (.term (.factor derived))
  inside := List.infix_rfl
  nonempty := List.cons_ne_nil _ _
  span := span.trans (covering_singleton token).symm
  whole := fun _ => rfl

theorem exists_owns_link {levels depth other : Nat} {stage inner : Stage}
    {lefts rights : List Token} {sign : Token} {left right node : Expr}
    (derived : Derives .expression levels (lefts ++ sign :: rights) node)
    (span : node.span = left.span.join right.span) (leftDerived : Derives stage depth lefts left)
    (rightDerived : Derives inner other rights right)
    (noParen : sign.kind ≠ .openParen ∧ sign.kind ≠ .closeParen)
    (rising : Rising (lefts ++ sign :: rights)) :
    ∃ part, Owns levels (lefts ++ sign :: rights) part node := by
  obtain ⟨_, _, _, fringedLeft⟩ := leftDerived.exists_fringe (rising.within (infix_left _ _ _))
  obtain ⟨_, _, _, fringedRight⟩ := rightDerived.exists_fringe (rising.within (infix_right _ _ _))
  have fringed := fringedLeft.link fringedRight rising span
  refine ⟨_, derived, fringed.inside, fringed.nonempty, fringed.span, fun balanced => ?_⟩
  obtain ⟨noOpens, noCloses⟩ := fringedLeft.whole_of_balanced fringedRight leftDerived.balanced
    rightDerived.balanced noParen balanced
  have split := fringed.split
  rw [noOpens, noCloses, List.nil_append, List.append_nil] at split
  exact split.symm

/-- The levels that an expression takes which is a tree of a stage. -/
def Stage.outer (levels : Nat) : Stage → Nat
  | primary | multiplicative | additive => levels + 1
  | expression => levels

/-- A node is derived from a part of some tokens. -/
def Owned (levels : Nat) (tokens : List Token) (node : Expr) : Prop :=
  ∃ own inner, own <:+: tokens ∧ Owns levels own inner node

theorem Owned.within {levels : Nat} {more : List Token} {node : Expr}
    (owned : Owned levels tokens node) (inside : tokens <:+: more) : Owned levels more node := by
  obtain ⟨own, inner, part, owns⟩ := owned
  exact ⟨own, inner, part.trans inside, owns⟩

theorem Owned.deeper {levels : Nat} {node : Expr} (owned : Owned levels tokens node) :
    Owned (levels + 1) tokens node := by
  obtain ⟨own, inner, part, owns⟩ := owned
  exact ⟨own, inner, part, owns.deeper⟩

theorem owned_link {levels depth other : Nat} {stage inner : Stage} {lefts rights : List Token}
    {sign : Token} {left right node : Expr}
    (derived : Derives .expression levels (lefts ++ sign :: rights) node)
    (span : node.span = left.span.join right.span) (leftDerived : Derives stage depth lefts left)
    (rightDerived : Derives inner other rights right)
    (noParen : sign.kind ≠ .openParen ∧ sign.kind ≠ .closeParen)
    (rising : Rising (lefts ++ sign :: rights))
    (inLeft : Rising lefts → ∀ part ∈ left.nodes, Owned levels lefts part)
    (inRight : Rising rights → ∀ part ∈ right.nodes, Owned levels rights part) :
    ∀ part ∈ node :: left.nodes ++ right.nodes, Owned levels (lefts ++ sign :: rights) part := by
  have front := infix_left lefts rights sign
  have back := infix_right lefts rights sign
  obtain ⟨whole, owns⟩ := exists_owns_link derived span leftDerived rightDerived noParen rising
  intro part among
  rcases List.mem_append.mp among with first | second
  · rcases List.mem_cons.mp first with rfl | among
    · exact ⟨_, whole, List.infix_rfl, owns⟩
    · exact (inLeft (rising.within front) part among).within front
  · exact (inRight (rising.within back) part second).within back

theorem Derives.owned {stage : Stage} {levels : Nat} {tree : Expr}
    (derived : Derives stage levels tokens tree) (rising : Rising tokens) :
    ∀ node ∈ tree.nodes, Owned (stage.outer levels) tokens node := by
  induction derived with
  | name kind =>
      exact List.forall_mem_singleton.mpr ⟨_, _, List.infix_rfl, owns_leaf (.name kind) rfl⟩
  | number kind numeral =>
      exact List.forall_mem_singleton.mpr
        ⟨_, _, List.infix_rfl, owns_leaf (.number kind numeral) rfl⟩
  | @group _ opening closing tokens _ _ _ _ ih =>
      -- a group is no node of its own, so what is inside it owns no more than before
      have inside : tokens <:+: _ := infix_group opening closing
      intro node among
      exact (ih (rising.within inside) node among).deeper.within inside
  | factor _ ih | term _ ih | plain _ ih => exact ih rising
  | product left sign staged right leftIH rightIH =>
      exact owned_link (.plain (.term (.product left sign staged right))) rfl left right
        (by simp [sign.1]) rising leftIH rightIH
  | sum left sign staged right leftIH rightIH =>
      exact owned_link (.plain (.sum left sign staged right)) rfl left right
        (by simp [sign.1]) rising leftIH rightIH
  | assignment target equals value targetIH valueIH =>
      exact owned_link (.assignment target equals value) rfl target value (by simp [equals]) rising
        targetIH fun risingValue node among => (valueIH risingValue node among).deeper

theorem DerivesStatements.owned {statements : List Statement}
    (derived : DerivesStatements Limited tokens statements) (rising : Rising tokens) :
    ∀ node ∈ (statements.flatMap fun statement => statement.action.nodes),
      Owned Parser.maxNesting tokens node ∧ node.height ≤ Parser.maxHeight := by
  intro node among
  obtain ⟨part, value, inside, admitted, inValue⟩ := derived.exists_value among
  have owned := admitted.derives.owned (rising.within inside) node inValue
  have lower := value.height_le_of_mem_nodes inValue
  exact ⟨owned.within inside, Nat.le_trans lower admitted.fits⟩

end Grammar

/-! ## Texts of nodes -/

/-- Some tokens of a text in a row have a stretch of the text. -/
theorem Token.Splits.exists_stretch {before characters : List Char} {tokens run : List Token}
    (splits : Splits (behind before) characters tokens) (inside : run <:+: tokens.dropLast)
    (nonempty : run ≠ []) :
    ∃ front text back, characters = front ++ (text ++ back) ∧
      Spells (before ++ front) text run := by
  obtain ⟨earlier, later, parts⟩ := inside
  rw [List.append_assoc] at parts
  obtain ⟨front, rest, rfl, -, splitsRest, -⟩ := splits.exists_cut parts.symm
  rw [behind_advance] at splitsRest
  obtain ⟨gap, text, back, rfl, -, spells, -⟩ :=
    splitsRest.exists_spells List.dropLast_concat nonempty
  rw [List.append_assoc] at spells
  exact ⟨front ++ gap, text, back, by simp, spells⟩

theorem Token.Spells.balanced_iff {before text : List Char} {run : List Token}
    (spells : Spells before text run) : Text.Balanced text ↔ Token.Balanced run := by
  rw [spells.splits.balanced_iff, List.dropLast_concat]

/-- A text that can be split and is not balanced is rejected by the parser. -/
theorem Program.ofSource_of_unbalanced {source : String} {tokens : List Token}
    (scanned : scan source = .ok tokens) (unbalanced : ¬Text.Balanced source.toList) :
    ∃ error, Program.ofSource source = .error (.syntactic error) := by
  cases parsed : Program.ofTokens tokens with
  | ok program =>
      have formed := Program.ofSource_eq_ok_iff.mpr ⟨tokens, scanned, parsed⟩
      exact absurd (Program.balanced_of_source formed) unbalanced
  | error error =>
      refine ⟨error, ?_⟩
      rw [Program.ofSource, scanned]
      exact congrArg (Except.mapError Diagnostic.syntactic) parsed

/-- The text of a node in a source. Read by itself it is that node again if it is balanced, and is
rejected by the parser if it is not. -/
structure Expr.Shows (node : Expr) (source text : String) : Prop where
  cut : node.span.extract? source = some text
  alone : Text.Balanced text.toList → ∃ other span,
    Program.ofSource text = .ok ⟨[⟨.expression other, span⟩]⟩ ∧ other.unplaced = node.unplaced
  rejected : ¬Text.Balanced text.toList →
    ∃ error, Program.ofSource text = .error (.syntactic error)

theorem Program.nodes_show {source : String} {program : Program}
    (formed : Program.ofSource source = .ok program) :
    ∀ node ∈ program.nodes, ∃ text, node.Shows source text := by
  obtain ⟨tokens, scanned, derived⟩ := Program.ofSource_eq_ok_iff_derives.mp formed
  have splits : Splits (behind []) source.toList tokens := scan_eq_ok_iff.mp scanned
  intro node among
  obtain ⟨⟨own, inner, part, owns⟩, fits⟩ := derived.owned splits.rising node among
  obtain ⟨front, text, back, split, spells⟩ :=
    splits.exists_stretch (owns.inside.trans part) owns.nonempty
  refine ⟨String.ofList text, ?_, fun balanced => ?_, fun unbalanced => ?_⟩
  · rw [owns.span, spells.covering_eq]
    exact Span.extract?_behind split
  · rw [String.toList_ofList, spells.balanced_iff] at balanced
    obtain rfl := owns.whole balanced
    obtain ⟨⟨statements⟩, alone, same⟩ := spells.exists_ofSource (.last ⟨owns.derives, fits⟩)
    obtain ⟨⟨action, span⟩, rfl, unplaced⟩ :=
      List.map_eq_singleton_iff.mp (congrArg Program.statements same)
    have sameAction := congrArg Statement.action unplaced
    cases action with
    | expression other => exact ⟨other, span, alone, Action.expression.inj sameAction⟩
    | declaration => cases sameAction
  · obtain ⟨others, splitsAlone, -⟩ := spells.splits.elsewhere Position.start
    rw [← String.toList_ofList (l := text)] at splitsAlone
    exact Program.ofSource_of_unbalanced (scan_eq_ok_iff.mpr splitsAlone) unbalanced

theorem Program.ofSource_grouped_factor : Program.ofSource "(a)*b" = .ok
    ⟨[⟨.expression (.linked .multiply (.name "a" ⟨⟨1, 1, 2⟩, ⟨2, 1, 3⟩⟩)
      (.name "b" ⟨⟨4, 1, 5⟩, ⟨5, 1, 6⟩⟩)), ⟨⟨0, 1, 1⟩, ⟨5, 1, 6⟩⟩⟩]⟩ := by
  have scanned : scan "(a)*b" = .ok
      [⟨.openParen, "(", ⟨0, 1, 1⟩, ⟨1, 1, 2⟩⟩, ⟨.identifier, "a", ⟨1, 1, 2⟩, ⟨2, 1, 3⟩⟩,
        ⟨.closeParen, ")", ⟨2, 1, 3⟩, ⟨3, 1, 4⟩⟩, ⟨.operator, "*", ⟨3, 1, 4⟩, ⟨4, 1, 5⟩⟩,
        ⟨.identifier, "b", ⟨4, 1, 5⟩, ⟨5, 1, 6⟩⟩, .endOfFile ⟨5, 1, 6⟩] :=
    ok_of_toOption_eq_some (by decide +kernel)
  have group : Derives .primary 127
      (⟨.openParen, "(", ⟨0, 1, 1⟩, ⟨1, 1, 2⟩⟩ :: [⟨.identifier, "a", ⟨1, 1, 2⟩, ⟨2, 1, 3⟩⟩] ++
        [⟨.closeParen, ")", ⟨2, 1, 3⟩, ⟨3, 1, 4⟩⟩]) _ :=
    .group rfl (.plain (.term (.factor (.name rfl)))) rfl
  have times : Denotes ⟨.operator, "*", ⟨3, 1, 4⟩, ⟨4, 1, 5⟩⟩ .multiply := ⟨rfl, rfl⟩
  have factor : Derives .primary 127 [⟨.identifier, "b", ⟨4, 1, 5⟩, ⟨5, 1, 6⟩⟩] _ := .name rfl
  have product : Limited _ _ :=
    ⟨.plain (.term (.product (.factor group) times rfl factor)), by decide⟩
  exact Program.ofSource_eq_ok_iff_derives.mpr ⟨_, scanned, .last product⟩

/-- Of the three nodes, the product has lost an opening parenthesis. -/
theorem Program.nodes_show_grouped_factor : ∃ program,
    Program.ofSource "(a)*b" = .ok program ∧ program.nodes.length = 3 ∧
      ∀ node ∈ program.nodes, ∃ text, node.Shows "(a)*b" text :=
  ⟨_, ofSource_grouped_factor, rfl, Program.nodes_show ofSource_grouped_factor⟩

/-- A product whose first factor is grouped does not cover a text that can be read as the
product. -/
theorem Program.grouped_factor_not_alone : ∃ program node,
    Program.ofSource "(a)*b" = .ok program ∧ node ∈ program.nodes ∧
      node.span.extract? "(a)*b" = some "a)*b" ∧
      ∀ alone, Program.ofSource "a)*b" ≠ .ok alone := by
  refine ⟨_, _, ofSource_grouped_factor, List.mem_cons_self, by decide +kernel, ?_⟩
  intro alone formed
  have balanced := Program.balanced_of_source formed
  revert balanced
  decide +kernel

end CalcScript
