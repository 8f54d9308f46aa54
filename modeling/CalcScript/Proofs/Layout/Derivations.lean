import CalcScript.Proofs.Grammar.Basic
import CalcScript.Proofs.Layout.Moved

/-!
# Derivations elsewhere

What tokens derive does not depend on where they stand. Tokens that are moved in their order derive
the tree that is moved likewise.
-/

set_option autoImplicit false

namespace CalcScript

namespace Grammar

variable {move : Position → Position}

theorem Derives.moved (orderly : Position.Orderly move) {stage : Stage} {levels : Nat}
    {tokens : List Token} {tree : Expr} (derived : Derives stage levels tokens tree) :
    Derives stage levels (tokens.map (Token.moved move)) (tree.moved move) := by
  induction derived with
  | name kind => exact .name kind
  | number kind numeral => exact .number kind numeral
  | group opens _ closes ih =>
      rw [List.map_append]
      exact .group opens ih closes
  | factor _ ih => exact .factor ih
  | product _ sign staged _ leftIH rightIH =>
      rw [List.map_append, Expr.linked_moved orderly]
      exact .product leftIH sign staged rightIH
  | term _ ih => exact .term ih
  | sum _ sign staged _ leftIH rightIH =>
      rw [List.map_append, Expr.linked_moved orderly]
      exact .sum leftIH sign staged rightIH
  | plain _ ih => exact .plain ih
  | assignment _ equals _ targetIH valueIH =>
      rw [List.map_append, Expr.assigned_moved orderly]
      exact .assignment targetIH equals valueIH

theorem Admits.moved (orderly : Position.Orderly move) {stage : Stage} {levels : Nat}
    {tokens : List Token} {tree : Expr} (admitted : Admits stage levels tokens tree) :
    Admits stage levels (tokens.map (Token.moved move)) (tree.moved move) :=
  ⟨admitted.derives.moved orderly, Nat.le_trans (Nat.le_of_eq tree.height_moved) admitted.fits⟩

theorem lastSpan_moved (before : Span) (tokens : List Token) :
    lastSpan (before.moved move) (tokens.map (Token.moved move)) =
      (lastSpan before tokens).moved move := by
  induction tokens generalizing before with
  | nil => rfl
  | cons token later ih => exact ih token.span

theorem covering_moved (orderly : Position.Orderly move) {tokens : List Token}
    (nonempty : tokens ≠ []) :
    covering (tokens.map (Token.moved move)) = (covering tokens).moved move := by
  cases tokens with
  | nil => exact absurd rfl nonempty
  | cons first rest =>
      rw [covering, Span.join_moved orderly, ← lastSpan_moved]
      rfl

theorem DerivesAction.moved (orderly : Position.Orderly move) {tokens : List Token}
    {action : Action} (derived : DerivesAction Limited tokens action) :
    DerivesAction Limited (tokens.map (Token.moved move)) (action.moved move) := by
  cases derived with
  | bare keyword name semicolon => exact .bare keyword name semicolon
  | initialized keyword name equals value semicolon =>
      rw [List.map_append]
      exact .initialized keyword name equals (value.moved orderly) semicolon
  | expression value semicolon =>
      rw [List.map_append]
      exact .expression (value.moved orderly) semicolon

theorem DerivesStatements.moved (orderly : Position.Orderly move) {tokens : List Token}
    {statements : List Statement} (derived : DerivesStatements Limited tokens statements) :
    DerivesStatements Limited (tokens.map (Token.moved move))
      (statements.map (Statement.moved move)) := by
  induction derived with
  | nil => exact .nil
  | last value =>
      rw [List.map_singleton, Statement.moved, ← covering_moved orderly value.derives.ne_nil]
      exact .last (value.moved orderly)
  | cons first _ ih =>
      rw [List.map_append, List.map_cons, Statement.moved, ← covering_moved orderly first.ne_nil]
      exact .cons (first.moved orderly) ih

end Grammar

end CalcScript
