import CalcScript.Proofs.Evaluation.Steps
import CalcScript.Proofs.Grammar.FailedPrograms

/-!
# The spans of trees and errors

All spans of a tree come from the spans of its tokens, by joining. So do the spans of syntax errors,
which may also be that of the token in front of which the parser stopped, and every fault of a
running script is blamed on a span of its tree. What holds of the spans of the tokens and is kept by
joining therefore holds of all of these.
-/

set_option autoImplicit false

namespace CalcScript

def Expr.spans : Expr → List Span
  | number _ span | name _ span => [span]
  | binary _ left right span => span :: left.spans ++ right.spans
  | assignment target value span => span :: target.spans ++ value.spans

def Action.spans : Action → List Span
  | expression value => value.spans
  | declaration _ _ nameSpan none => [nameSpan]
  | declaration _ _ nameSpan (some value) => nameSpan :: value.spans

def Statement.spans (statement : Statement) : List Span := statement.span :: statement.action.spans

def Program.spans (program : Program) : List Span := program.statements.flatMap Statement.spans

theorem Expr.span_mem_spans (tree : Expr) : tree.span ∈ tree.spans := by
  cases tree <;> exact List.mem_cons_self

/-! ## Steps -/

/-- A step that can fail is blamed on a part of the tree. -/
theorem Expr.place_mem_spans {tree : Expr} {step : Step} (among : step ∈ tree.steps) :
    (∃ value, step = .supply value) ∨ step.place ∈ tree.spans := by
  induction tree with
  | number value span =>
      cases List.mem_singleton.mp among
      exact .inl ⟨_, rfl⟩
  | name symbol span =>
      cases List.mem_singleton.mp among
      exact .inr List.mem_cons_self
  | binary operator left right span leftIH rightIH =>
      rw [Expr.steps, List.append_assoc] at among
      rcases List.mem_append.mp among with inLeft | later
      · exact (leftIH inLeft).imp_right fun mem => by simp [Expr.spans, mem]
      · rcases List.mem_append.mp later with inRight | here
        · exact (rightIH inRight).imp_right fun mem => by simp [Expr.spans, mem]
        · cases List.mem_singleton.mp here
          exact .inr List.mem_cons_self
  | assignment target value span _ valueIH =>
      rcases List.mem_append.mp among with front | here
      · rcases List.mem_cons.mp front with rfl | inValue
        · exact .inr (by simp [Expr.spans, Step.place, target.span_mem_spans])
        · exact (valueIH inValue).imp_right fun mem => by simp [Expr.spans, mem]
      · obtain ⟨name, -, rfl⟩ := List.mem_map.mp here
        exact .inr List.mem_cons_self

theorem Action.place_mem_spans {action : Action} {step : Step} (among : step ∈ action.steps) :
    (∃ value, step = .supply value) ∨ step.place ∈ action.spans := by
  cases action with
  | expression value => exact Expr.place_mem_spans among
  | declaration constant name nameSpan value =>
      cases value with
      | none =>
          rcases List.mem_cons.mp among with rfl | here
          · exact .inl ⟨_, rfl⟩
          · cases List.mem_singleton.mp here
            exact .inr List.mem_cons_self
      | some value =>
          rcases List.mem_append.mp among with inValue | here
          · exact (Expr.place_mem_spans inValue).imp_right (List.mem_cons_of_mem _)
          · cases List.mem_singleton.mp here
            exact .inr List.mem_cons_self

/-- A program that fails is blamed on one of its spans. -/
theorem Program.span_mem_spans {program : Program} {machine : Machine} {error : RuntimeError}
    {stack : ScopeStack} (failed : performAll program.steps machine = (.error error, stack)) :
    error.span ∈ program.spans := by
  obtain ⟨done, step, later, reached, steps, -, fails, place, -⟩ :=
    performAll_eq_error_iff.mp failed
  have among : step ∈ program.steps := by
    rw [steps]
    exact List.mem_append_right _ List.mem_cons_self
  obtain ⟨statement, inProgram, inStatement⟩ := List.mem_flatMap.mp among
  rcases Action.place_mem_spans inStatement with ⟨value, rfl⟩ | here
  · cases fails
  · rw [← place]
    exact List.mem_flatMap.mpr ⟨statement, inProgram, List.mem_cons_of_mem _ here⟩

/-! ## Derivations and failures -/

namespace Grammar

variable (Good : Span → Prop)
  (joins : ∀ {left right : Span}, Good left → Good right → Good (left.join right))

theorem lastSpan_good {before : Span} {tokens : List Token} (goodBefore : Good before)
    (good : ∀ token ∈ tokens, Good token.span) : Good (lastSpan before tokens) := by
  induction tokens generalizing before with
  | nil => exact goodBefore
  | cons token rest ih =>
      obtain ⟨here, later⟩ := List.forall_mem_cons.mp good
      exact ih here later

include joins in
theorem covering_good {tokens : List Token} (nonempty : tokens ≠ [])
    (good : ∀ token ∈ tokens, Good token.span) : Good (covering tokens) := by
  cases tokens with
  | nil => exact absurd rfl nonempty
  | cons first rest =>
      obtain ⟨here, later⟩ := List.forall_mem_cons.mp good
      exact joins here (lastSpan_good Good here later)

include joins in
theorem Derives.good_spans {stage : Stage} {levels : Nat} {tokens : List Token} {tree : Expr}
    (derived : Derives stage levels tokens tree) (good : ∀ token ∈ tokens, Good token.span) :
    ∀ span ∈ tree.spans, Good span := by
  induction derived with
  | name | number => simpa [Expr.spans] using good
  | group _ _ _ ih => exact ih fun token among => good token (by simp [among])
  | factor _ ih | term _ ih | plain _ ih => exact ih good
  | @product _ _ _ _ _ left right _ _ _ _ leftIH rightIH
  | @sum _ _ _ _ _ left right _ _ _ _ leftIH rightIH
  | @assignment _ _ _ _ left right _ _ _ leftIH rightIH =>
      have goodLeft := leftIH fun token among => good token (by simp [among])
      have goodRight := rightIH fun token among => good token (by simp [among])
      have whole := joins (goodLeft _ left.span_mem_spans) (goodRight _ right.span_mem_spans)
      intro span among
      rcases List.mem_append.mp among with front | inRight
      · rcases List.mem_cons.mp front with rfl | inLeft
        · exact whole
        · exact goodLeft span inLeft
      · exact goodRight span inRight

include joins in
theorem DerivesAction.good_spans {tokens : List Token} {action : Action}
    (derived : DerivesAction Limited tokens action) (good : ∀ token ∈ tokens, Good token.span) :
    ∀ span ∈ action.spans, Good span := by
  cases derived with
  | @bare _ name =>
      intro span among
      cases List.mem_singleton.mp among
      exact good name (by simp)
  | initialized _ _ _ value _ =>
      have goodValue := value.derives.good_spans Good joins fun token among => good token (by simp [among])
      intro span among
      rcases List.mem_cons.mp among with rfl | inValue
      · exact good _ (by simp)
      · exact goodValue span inValue
  | expression value _ =>
      exact value.derives.good_spans Good joins fun token among => good token (by simp [among])

include joins in
theorem DerivesStatements.good_spans {tokens : List Token} {statements : List Statement}
    (derived : DerivesStatements Limited tokens statements)
    (good : ∀ token ∈ tokens, Good token.span) :
    ∀ span ∈ statements.flatMap Statement.spans, Good span := by
  induction derived with
  | nil => exact fun span among => nomatch among
  | last value =>
      intro span among
      rw [List.flatMap_singleton] at among
      rcases List.mem_cons.mp among with rfl | inValue
      · exact covering_good Good joins value.derives.ne_nil good
      · exact value.derives.good_spans Good joins good span inValue
  | cons first _ ih =>
      have goodFirst := fun token among => good token (List.mem_append_left _ among)
      intro span among
      rcases List.mem_append.mp among with inFirst | inRest
      · rcases List.mem_cons.mp inFirst with rfl | inAction
        · exact covering_good Good joins first.ne_nil goodFirst
        · exact first.good_spans Good joins goodFirst span inAction
      · exact ih (fun token among => good token (List.mem_append_right _ among)) span inRest

section Failures

variable {next : Token} {tokens : List Token} {error : SyntaxError}

include joins in
theorem Fails.good_span {stage : Stage} {levels : Nat}
    (fails : Fails next stage levels tokens error) (goodNext : Good next.span)
    (good : ∀ token ∈ tokens, Good token.span) : Good error.span := by
  induction fails with
  | operand | nesting | unclosed => exact goodNext
  | group _ _ ih => exact ih fun token among => good token (List.mem_cons_of_mem _ among)
  | factor _ ih | term _ ih | target _ ih => exact ih good
  | product _ _ _ _ ih | sum _ _ _ _ ih | value _ _ _ ih =>
      exact ih fun token among => good token (by simp [among])
  | @highProduct _ _ _ _ _ leftTree rightTree left _ _ right
  | @highSum _ _ _ _ _ leftTree rightTree left _ _ right
  | @highAssignment _ _ _ _ leftTree rightTree left _ right =>
      have goodLeft := left.derives.good_spans Good joins fun token among => good token (by simp [among])
      have goodRight := right.derives.good_spans Good joins fun token among => good token (by simp [among])
      exact joins (goodLeft _ leftTree.span_mem_spans) (goodRight _ rightTree.span_mem_spans)

include joins in
theorem FailsStatement.good_span (fails : FailsStatement next tokens error)
    (goodNext : Good next.span) (good : ∀ token ∈ tokens, Good token.span) : Good error.span := by
  cases fails with
  | unnamed | unvalued | unterminated | unended => exact goodNext
  | uninitialized => exact covering_good Good joins (List.cons_ne_nil _ _) good
  | value _ _ _ value =>
      exact value.good_span Good joins goodNext fun token among => good token (by simp [among])
  | expression value => exact value.good_span Good joins goodNext good

include joins in
theorem FailsStatements.good_span (fails : FailsStatements next tokens error)
    (goodNext : Good next.span) (good : ∀ token ∈ tokens, Good token.span) : Good error.span := by
  induction fails with
  | first fails => exact fails.good_span Good joins goodNext good
  | later _ _ ih => exact ih fun token among => good token (List.mem_append_right _ among)

end Failures

end Grammar

end CalcScript
