import CalcScript.Proofs.Printing.Leaves

/-!
# Reading printed trees

The printed form of a program shows how it is built: programs that are printed alike are alike but
for the places of their nodes. Only an infinite number and the name `inf` cannot be told apart.

A printed expression ends where it has to, whatever is printed behind it. A leaf is ended by the
blank, the parenthesis or the line feed that follows it, and a compound by its own parenthesis.
-/

set_option autoImplicit false

namespace CalcScript

/-- Trees that differ in their spans at most, or in an infinite number for the name `inf`. -/
inductive Expr.Similar : Expr → Expr → Prop where
  | number {value : Float} {span other : Span} : Similar (.number value span) (.number value other)
  | name {symbol : String} {span other : Span} : Similar (.name symbol span) (.name symbol other)
  | infinity_name {span other : Span} :
      Similar (.number Number.infinity span) (.name "inf" other)
  | name_infinity {span other : Span} :
      Similar (.name "inf" span) (.number Number.infinity other)
  | binary {operator : Operator} {left right left' right' : Expr} {span other : Span} :
      Similar left left' → Similar right right' →
      Similar (.binary operator left right span) (.binary operator left' right' other)
  | assignment {target value target' value' : Expr} {span other : Span} :
      Similar target target' → Similar value value' →
      Similar (.assignment target value span) (.assignment target' value' other)

inductive Action.Similar : Action → Action → Prop where
  | expression {value value' : Expr} :
      value.Similar value' → Similar (.expression value) (.expression value')
  | bare {constant : Bool} {name : String} {span other : Span} :
      Similar (.declaration constant name span none) (.declaration constant name other none)
  | initialized {constant : Bool} {name : String} {value value' : Expr} {span other : Span} :
      value.Similar value' →
      Similar (.declaration constant name span (some value))
        (.declaration constant name other (some value'))

/-- Programs with similar statements in the same order. -/
def Program.Similar (left right : Program) : Prop :=
  List.Forall₂ (fun statement other => statement.action.Similar other.action)
    left.statements right.statements

/-! ## Similar programs are printed alike -/

theorem Expr.Similar.printed_eq {left right : Expr} (similar : left.Similar right) :
    left.printed = right.printed := by
  induction similar with
  | number | name => rfl
  | infinity_name => exact Number.text_infinity
  | name_infinity => exact Number.text_infinity.symm
  | binary _ _ leftIH rightIH => rw [printed, leftIH, rightIH, printed]
  | assignment _ _ targetIH valueIH => rw [printed, targetIH, valueIH, printed]

theorem Action.Similar.printed_eq {left right : Action} (similar : left.Similar right) :
    left.printed = right.printed := by
  cases similar with
  | expression value => exact value.printed_eq
  | bare => rfl
  | initialized value => rw [printed, value.printed_eq, printed]

theorem Program.Similar.printed_eq {left right : Program} (similar : left.Similar right) :
    left.printed = right.printed := by
  have lines : left.statements.map Statement.printed = right.statements.map Statement.printed := by
    obtain ⟨left⟩ := left
    obtain ⟨right⟩ := right
    change List.Forall₂ _ left right at similar
    induction similar with
    | nil => rfl
    | cons first _ ih => exact congrArg₂ List.cons first.printed_eq ih
  rw [printed, lines, printed]

/-! ## Expressions -/

namespace Operator

theorem length_symbol (operator : Operator) : operator.symbol.toList.length = 1 := by
  cases operator <;> rfl

theorem symbol_injective {operator other : Operator} (same : operator.symbol = other.symbol) :
    operator = other := by
  apply Option.some.inj
  rw [← ofSymbol?_symbol operator, same, ofSymbol?_symbol]

end Operator

namespace Expr

open Text

/-- What a compound is printed with behind its operator. -/
def printedOperands (left right : Expr) : List Char :=
  ' ' :: (left.printed.toList ++ ' ' :: (right.printed.toList ++ [')']))

theorem toList_binary (operator : Operator) (left right : Expr) (span : Span) :
    (binary operator left right span).printed.toList =
      '(' :: (operator.symbol.toList ++ printedOperands left right) := by
  simp [printed, printedOperands]

theorem toList_assignment (target value : Expr) (span : Span) :
    (assignment target value span).printed.toList =
      '(' :: '=' :: printedOperands target value := by
  simp [printed, printedOperands]

def isLeaf : Expr → Bool
  | number _ _ | name _ _ => true
  | binary _ _ _ _ | assignment _ _ _ => false

theorem isRun_of_isLeaf {tree : Expr} (spelled : tree.Spelled) (leaf : tree.isLeaf = true) :
    IsRun isLeafCharacter tree.printed.toList := by
  cases tree with
  | number value span =>
      obtain ⟨whole, rfl⟩ := spelled
      exact Number.isRun_text whole
  | name symbol span => exact spelled.isLeaf
  | binary | assignment => cases leaf

theorem exists_open_of_not_isLeaf {tree : Expr} (compound : tree.isLeaf = false) :
    ∃ rest, tree.printed.toList = '(' :: rest := by
  cases tree with
  | number | name => cases compound
  | binary operator left right span => exact ⟨_, toList_binary operator left right span⟩
  | assignment target value span => exact ⟨_, toList_assignment target value span⟩

theorem similar_of_isLeaf {left right : Expr} (spelled : left.Spelled)
    (spelledRight : right.Spelled) (leaf : left.isLeaf = true) (leafRight : right.isLeaf = true)
    (same : left.printed = right.printed) : left.Similar right := by
  cases left with
  | binary | assignment => cases leaf
  | number value span =>
      obtain ⟨whole, rfl⟩ := spelled
      cases right with
      | binary | assignment => cases leafRight
      | number value other =>
          obtain ⟨wholeRight, rfl⟩ := spelledRight
          rw [Number.ofWhole_eq_of_text same]
          exact .number
      | name symbol other =>
          obtain ⟨infinite, rfl⟩ := Number.ofWhole_eq_infinity spelledRight same
          rw [infinite]
          exact .infinity_name
  | name symbol span =>
      cases right with
      | binary | assignment => cases leafRight
      | number value other =>
          obtain ⟨whole, rfl⟩ := spelledRight
          obtain ⟨infinite, rfl⟩ := Number.ofWhole_eq_infinity spelled same.symm
          rw [infinite]
          exact .name_infinity
      | name symbol' other =>
          cases same
          exact .name

/-- An expression is told by how it is printed in front of a text that ends it. -/
def ReadsBack (left : Expr) : Prop :=
  ∀ {right : Expr} {first second : List Char}, right.Spelled → EndsLeaf first → EndsLeaf second →
    left.printed.toList ++ first = right.printed.toList ++ second →
    left.Similar right ∧ first = second

theorem readsBack_of_isLeaf {left : Expr} (leaf : left.isLeaf = true) (spelled : left.Spelled) :
    left.ReadsBack := by
  intro right first second spelledRight ends endsSecond same
  have run := isRun_of_isLeaf spelled leaf
  cases leafRight : right.isLeaf with
  | false =>
      obtain ⟨rest, shown⟩ := exists_open_of_not_isLeaf leafRight
      rw [shown] at same
      exact absurd same run.append_ne
  | true =>
      have runRight := isRun_of_isLeaf spelledRight leafRight
      obtain ⟨printed, rest⟩ := run.append_inj runRight ends endsSecond same
      have similar :=
        similar_of_isLeaf spelled spelledRight leaf leafRight (String.toList_inj.mp printed)
      exact ⟨similar, rest⟩

section Operands

variable {left right : Expr}

theorem printedOperands_append_inj (readsLeft : left.ReadsBack) (readsRight : right.ReadsBack)
    {left' right' : Expr} (spelledLeft : left'.Spelled) (spelledRight : right'.Spelled)
    {first second : List Char}
    (same : printedOperands left right ++ first = printedOperands left' right' ++ second) :
    left.Similar left' ∧ right.Similar right' ∧ first = second := by
  simp only [printedOperands, List.cons_append, List.append_assoc, List.nil_append,
    List.cons.injEq, true_and] at same
  obtain ⟨lefts, behind⟩ := readsLeft spelledLeft endsLeaf_blank endsLeaf_blank same
  obtain ⟨rights, rest⟩ :=
    readsRight spelledRight endsLeaf_close endsLeaf_close (List.cons.inj behind).2
  exact ⟨lefts, rights, (List.cons.inj rest).2⟩

theorem ReadsBack.binary (readsLeft : left.ReadsBack) (readsRight : right.ReadsBack)
    (operator : Operator) (span : Span) : (binary operator left right span).ReadsBack := by
  intro other first second spelled _ _ same
  rw [toList_binary] at same
  cases other with
  | number | name => exact absurd same.symm (isRun_of_isLeaf spelled rfl).append_ne
  | assignment target value place =>
      rw [toList_assignment] at same
      cases operator <;> cases same
  | binary operator' left' right' place =>
      rw [toList_binary, List.cons_append, List.cons_append, List.append_assoc,
        List.append_assoc] at same
      obtain ⟨symbols, operands⟩ := List.append_inj (List.cons.inj same).2
        (operator.length_symbol.trans operator'.length_symbol.symm)
      cases Operator.symbol_injective (String.toList_inj.mp symbols)
      obtain ⟨lefts, rights, rest⟩ :=
        printedOperands_append_inj readsLeft readsRight spelled.1 spelled.2 operands
      exact ⟨.binary lefts rights, rest⟩

theorem ReadsBack.assignment (readsTarget : left.ReadsBack) (readsValue : right.ReadsBack)
    (span : Span) : (assignment left right span).ReadsBack := by
  intro other first second spelled _ _ same
  rw [toList_assignment] at same
  cases other with
  | number | name => exact absurd same.symm (isRun_of_isLeaf spelled rfl).append_ne
  | binary operator left' right' place =>
      rw [toList_binary] at same
      cases operator <;> cases same
  | assignment target value place =>
      rw [toList_assignment] at same
      obtain ⟨targets, values, rest⟩ := printedOperands_append_inj readsTarget readsValue
        spelled.1 spelled.2 (List.cons.inj (List.cons.inj same).2).2
      exact ⟨.assignment targets values, rest⟩

end Operands

theorem readsBack {tree : Expr} (spelled : tree.Spelled) : tree.ReadsBack := by
  induction tree with
  | number | name => exact readsBack_of_isLeaf rfl spelled
  | binary operator left right span leftIH rightIH =>
      exact ReadsBack.binary (leftIH spelled.1) (rightIH spelled.2) operator span
  | assignment target value span targetIH valueIH =>
      exact ReadsBack.assignment (targetIH spelled.1) (valueIH spelled.2) span

end Expr

/-! ## Statements -/

namespace Action

open Text

theorem isRun_keyword (constant : Bool) : IsRun isCased (keyword constant).toList := by
  cases constant <;> exact ⟨by decide, List.all_eq_true.mp (by decide +kernel)⟩

theorem keyword_injective {constant other : Bool} (same : keyword constant = keyword other) :
    constant = other := by
  revert constant other
  decide

/-- What a declaration is printed with behind its name. -/
def printedValue : Option Expr → List Char
  | none => [')']
  | some value => ' ' :: (value.printed.toList ++ [')'])

theorem toList_declaration (constant : Bool) (name : String) (span : Span) (value : Option Expr) :
    (declaration constant name span value).printed.toList =
      '(' :: ((keyword constant).toList ++ ' ' :: (name.toList ++ printedValue value)) := by
  cases value <;> simp [printed, printedValue]

theorem endsLeaf_printedValue (value : Option Expr) (rest : List Char) :
    EndsLeaf (printedValue value ++ rest) := by
  cases value with
  | none => exact endsLeaf_close
  | some value => exact endsLeaf_blank

/-- The keyword of a declaration is no operator. -/
theorem expression_ne_declaration {value : Expr} (spelled : value.Spelled) {constant : Bool}
    {first second : List Char} :
    value.printed.toList ++ first ≠ '(' :: ((keyword constant).toList ++ second) := by
  cases value with
  | number | name => exact (Expr.isRun_of_isLeaf spelled rfl).append_ne
  | binary operator left right span =>
      rw [Expr.toList_binary]
      cases operator <;> cases constant <;> (intro same; cases same)
  | assignment target value span =>
      rw [Expr.toList_assignment]
      cases constant <;> (intro same; cases same)

theorem toList_ne_nil {action : Action} (spelled : action.Spelled) :
    action.printed.toList ≠ [] := by
  cases action with
  | declaration constant name span value =>
      rw [toList_declaration]
      exact List.cons_ne_nil _ _
  | expression value =>
      cases leaf : value.isLeaf with
      | true => exact (Expr.isRun_of_isLeaf spelled leaf).nonempty
      | false =>
          obtain ⟨rest, shown⟩ := Expr.exists_open_of_not_isLeaf leaf
          exact fun empty => List.cons_ne_nil _ _ (shown.symm.trans empty)

section Append

variable {first second : List Char}

theorem printedValue_append_inj {value other : Option Expr}
    (spelled : ∀ initial ∈ value, initial.Spelled)
    (spelledOther : ∀ initial ∈ other, initial.Spelled)
    (same : printedValue value ++ first = printedValue other ++ second)
    (constant : Bool) (name : String) (span place : Span) :
    (declaration constant name span value).Similar (declaration constant name place other) ∧
      first = second := by
  cases value with
  | none =>
      cases other with
      | none => exact ⟨.bare, (List.cons.inj same).2⟩
      | some initial => cases same
  | some initial =>
      cases other with
      | none => cases same
      | some other =>
          simp only [printedValue, List.cons_append, List.append_assoc, List.nil_append,
            List.cons.injEq, true_and] at same
          obtain ⟨values, rest⟩ := Expr.readsBack (spelled initial rfl) (spelledOther other rfl)
            endsLeaf_close endsLeaf_close same
          exact ⟨.initialized values, (List.cons.inj rest).2⟩

/-- Actions with the same text in front of texts that end them are similar. -/
theorem printed_append_inj {left right : Action} (spelled : left.Spelled)
    (spelledRight : right.Spelled) (ends : EndsLeaf first) (endsSecond : EndsLeaf second)
    (same : left.printed.toList ++ first = right.printed.toList ++ second) :
    left.Similar right ∧ first = second := by
  cases left with
  | expression value =>
      cases right with
      | expression other =>
          obtain ⟨values, rest⟩ := Expr.readsBack spelled spelledRight ends endsSecond same
          exact ⟨.expression values, rest⟩
      | declaration constant name span other =>
          rw [toList_declaration, List.cons_append, List.append_assoc] at same
          exact absurd same (expression_ne_declaration spelled)
  | declaration constant name span value =>
      rw [toList_declaration, List.cons_append, List.append_assoc] at same
      cases right with
      | expression other => exact absurd same.symm (expression_ne_declaration spelledRight)
      | declaration constant' name' place other =>
          rw [toList_declaration] at same
          simp only [List.cons_append, List.append_assoc] at same
          obtain ⟨keywords, names⟩ := (isRun_keyword constant).isLeaf.append_inj
            (isRun_keyword constant').isLeaf endsLeaf_blank endsLeaf_blank (List.cons.inj same).2
          cases keyword_injective (String.toList_inj.mp keywords)
          obtain ⟨same, values⟩ := spelled.1.isLeaf.append_inj spelledRight.1.isLeaf
            (endsLeaf_printedValue value first) (endsLeaf_printedValue other second)
            (List.cons.inj names).2
          cases String.toList_inj.mp same
          exact printedValue_append_inj spelled.2 spelledRight.2 values constant name span place

end Append

end Action

/-! ## Programs -/

namespace Program

open Text

/-- The lines of a program behind its first. -/
def laterLines (statements : List Statement) : List Char :=
  statements.flatMap fun statement => '\n' :: statement.printed.toList

theorem laterLines_eq_cons (first : Statement) (later : List Statement) :
    laterLines (first :: later) = '\n' :: (Program.mk (first :: later)).printed.toList := by
  rw [printed, String.toList_intercalate]
  induction later generalizing first with
  | nil => simp [laterLines]
  | cons second later ih =>
      have rest := ih second
      rw [laterLines, List.flatMap_cons, ← laterLines, rest]
      simp [List.intercalate]

theorem printed_ne_empty {first : Statement} {later : List Statement}
    (spelled : Program.Spelled ⟨first :: later⟩) : (Program.mk (first :: later)).printed ≠ "" := by
  intro empty
  have line := laterLines_eq_cons first later
  rw [empty] at line
  have unwritten := (List.append_eq_nil_iff.mp (List.cons.inj line).2).1
  exact Action.toList_ne_nil (spelled first List.mem_cons_self) unwritten

theorem endsLeaf_laterLines (statements : List Statement) : EndsLeaf (laterLines statements) := by
  cases statements with
  | nil => exact fun _ among => nomatch among
  | cons first later => exact endsLeaf_cons (by decide +kernel)

theorem similar_of_laterLines {left right : List Statement}
    (spelled : ∀ statement ∈ left, statement.action.Spelled)
    (spelledRight : ∀ statement ∈ right, statement.action.Spelled)
    (same : laterLines left = laterLines right) : Program.Similar ⟨left⟩ ⟨right⟩ := by
  induction left generalizing right with
  | nil =>
      cases right with
      | nil => exact .nil
      | cons first later => cases same
  | cons first later ih =>
      cases right with
      | nil => cases same
      | cons other others =>
          obtain ⟨firstSpelled, laterSpelled⟩ := List.forall_mem_cons.mp spelled
          obtain ⟨otherSpelled, othersSpelled⟩ := List.forall_mem_cons.mp spelledRight
          have lines := (List.cons.inj same).2
          obtain ⟨similar, rest⟩ := Action.printed_append_inj firstSpelled otherSpelled
            (endsLeaf_laterLines later) (endsLeaf_laterLines others) lines
          exact .cons similar (ih laterSpelled othersSpelled rest)

/-- Programs of texts are printed alike if they are similar, and only then. -/
theorem printed_eq_iff_similar {first second : String} {left right : Program}
    (formed : Program.ofSource first = .ok left)
    (formedRight : Program.ofSource second = .ok right) :
    left.printed = right.printed ↔ left.Similar right := by
  refine ⟨fun same => ?_, Similar.printed_eq⟩
  have spelled := spelled_of_source formed
  have spelledRight := spelled_of_source formedRight
  obtain ⟨_ | ⟨statement, later⟩⟩ := left
  · obtain ⟨_ | ⟨other, others⟩⟩ := right
    · exact .nil
    · cases printed_ne_empty spelledRight same.symm
  · obtain ⟨_ | ⟨other, others⟩⟩ := right
    · cases printed_ne_empty spelled same
    · apply similar_of_laterLines spelled spelledRight
      rw [laterLines_eq_cons, laterLines_eq_cons, same]

/-- A sum on its own and between parentheses. -/
theorem printed_eq_iff_similar_grouped :
    ∃ left right, Program.ofSource "a+b" = .ok left ∧ Program.ofSource "(a + b);" = .ok right ∧
      left ≠ right ∧ left.printed = "(+ a b)" ∧
      (left.printed = right.printed ↔ left.Similar right) ∧ left.Similar right := by
  have scanned : Token.scan "a+b" = .ok
      [⟨.identifier, "a", ⟨0, 1, 1⟩, ⟨1, 1, 2⟩⟩, ⟨.operator, "+", ⟨1, 1, 2⟩, ⟨2, 1, 3⟩⟩,
        ⟨.identifier, "b", ⟨2, 1, 3⟩, ⟨3, 1, 4⟩⟩, .endOfFile ⟨3, 1, 4⟩] :=
    ok_of_toOption_eq_some (by decide +kernel)
  have scannedRight : Token.scan "(a + b);" = .ok
      [⟨.openParen, "(", ⟨0, 1, 1⟩, ⟨1, 1, 2⟩⟩, ⟨.identifier, "a", ⟨1, 1, 2⟩, ⟨2, 1, 3⟩⟩,
        ⟨.operator, "+", ⟨3, 1, 4⟩, ⟨4, 1, 5⟩⟩, ⟨.identifier, "b", ⟨5, 1, 6⟩, ⟨6, 1, 7⟩⟩,
        ⟨.closeParen, ")", ⟨6, 1, 7⟩, ⟨7, 1, 8⟩⟩, ⟨.semicolon, ";", ⟨7, 1, 8⟩, ⟨8, 1, 9⟩⟩,
        .endOfFile ⟨8, 1, 9⟩] :=
    ok_of_toOption_eq_some (by decide +kernel)
  -- a sum of two names, wherever its tokens stand
  have sum (levels : Nat) (first sign second : Span) : Grammar.Derives .expression (levels + 1)
      ([⟨.identifier, "a", first⟩] ++ [⟨.operator, "+", sign⟩, ⟨.identifier, "b", second⟩])
      (.linked .add (.name "a" first) (.name "b" second)) :=
    .plain (.sum (.term (.factor (.name rfl))) ⟨rfl, rfl⟩ rfl (.factor (.name rfl)))
  have formed := Program.ofSource_eq_ok_iff_derives.mpr
    ⟨_, scanned, .last ⟨sum _ _ _ _, by decide⟩⟩
  have group : Grammar.Limited
      (⟨.openParen, "(", ⟨0, 1, 1⟩, ⟨1, 1, 2⟩⟩ ::
        ([⟨.identifier, "a", ⟨1, 1, 2⟩, ⟨2, 1, 3⟩⟩] ++ [⟨.operator, "+", ⟨3, 1, 4⟩, ⟨4, 1, 5⟩⟩,
          ⟨.identifier, "b", ⟨5, 1, 6⟩, ⟨6, 1, 7⟩⟩]) ++
        [⟨.closeParen, ")", ⟨6, 1, 7⟩, ⟨7, 1, 8⟩⟩]) _ :=
    ⟨.plain (.term (.factor (.group rfl (sum _ _ _ _) rfl))), by decide⟩
  have formedRight := Program.ofSource_eq_ok_iff_derives.mpr
    ⟨_, scannedRight, .cons (.expression group rfl) .nil⟩
  have alike := printed_eq_iff_similar formed formedRight
  exact ⟨_, _, formed, formedRight, by decide, by decide, alike, alike.mp rfl⟩

end Program

end CalcScript
