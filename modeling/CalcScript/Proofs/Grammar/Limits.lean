import CalcScript.Proofs.Grammar.Rejections

/-!
# The grammar without its limits

Without the limits a derivation may be nested and high at will. What derives something within the
limits derives it without them as well.
-/

set_option autoImplicit false

namespace CalcScript.Grammar

open CalcScript.Parser

/-- Expressions of any nesting and height. -/
def Unlimited (tokens : List Token) (tree : Expr) : Prop :=
  ∃ levels, Derives .expression levels tokens tree

/-- The errors that are about a limit. -/
def TooDeep (error : SyntaxError) : Prop :=
  ∃ limit, error.fault = .nestedTooDeep limit

theorem Derives.deeper {stage : Stage} {levels : Nat} {tokens : List Token} {tree : Expr}
    (derived : Derives stage levels tokens tree) : Derives stage (levels + 1) tokens tree := by
  induction derived with
  | name kind => exact .name kind
  | number kind numeral => exact .number kind numeral
  | group opens _ closes ih => exact .group opens ih closes
  | factor _ ih => exact .factor ih
  | product _ sign staged _ leftIH rightIH => exact .product leftIH sign staged rightIH
  | term _ ih => exact .term ih
  | sum _ sign staged _ leftIH rightIH => exact .sum leftIH sign staged rightIH
  | plain _ ih => exact .plain ih
  | assignment _ equals _ targetIH valueIH => exact .assignment targetIH equals valueIH

theorem Derives.atDepth {stage : Stage} {levels deeper : Nat} {tokens : List Token} {tree : Expr}
    (derived : Derives stage levels tokens tree) (le : levels ≤ deeper) :
    Derives stage deeper tokens tree := by
  induction le with
  | refl => exact derived
  | step _ ih => exact ih.deeper

theorem Admits.unlimited {levels : Nat} {tokens : List Token} {tree : Expr}
    (admitted : Admits .expression levels tokens tree) : Unlimited tokens tree :=
  ⟨levels, admitted.derives⟩

theorem Unlimited.proper {tokens : List Token} {tree : Expr} (derived : Unlimited tokens tree) :
    ∀ token ∈ tokens, token.kind ≠ .endOfFile := by
  obtain ⟨levels, derives⟩ := derived
  exact derives.proper

theorem DerivesAction.unlimited {tokens : List Token} {action : Action}
    (derived : DerivesAction Limited tokens action) : DerivesAction Unlimited tokens action := by
  cases derived with
  | bare keyword name semicolon => exact .bare keyword name semicolon
  | initialized keyword name equals value semicolon =>
      exact .initialized keyword name equals value.unlimited semicolon
  | expression value semicolon => exact .expression value.unlimited semicolon

end CalcScript.Grammar
