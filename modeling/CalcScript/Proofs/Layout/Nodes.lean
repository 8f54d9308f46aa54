import Mathlib.Data.List.Forall2
import CalcScript.Proofs.Grammar.Sources

/-!
# Nodes and leaves

The nodes of a program and, from left to right, its leaves. The name of a declaration is a leaf in
front of those of its value. Every name and every number among the tokens of a program is written at
one leaf, the first at the first, and no leaf stands for any other token.
-/

set_option autoImplicit false

namespace CalcScript

namespace Expr

def nodes : Expr → List Expr
  | number value span => [number value span]
  | name symbol span => [name symbol span]
  | binary operator left right span =>
    binary operator left right span :: left.nodes ++ right.nodes
  | assignment target value span => assignment target value span :: target.nodes ++ value.nodes

def leaves : Expr → List Expr
  | number value span => [number value span]
  | name symbol span => [name symbol span]
  | binary _ left right _ => left.leaves ++ right.leaves
  | assignment target value _ => target.leaves ++ value.leaves

theorem height_le_of_mem_nodes (tree : Expr) {node : Expr} (among : node ∈ tree.nodes) :
    node.height ≤ tree.height := by
  induction tree with
  | number | name =>
      cases List.mem_singleton.mp among
      exact Nat.le_refl _
  | binary _ left right _ leftIH rightIH | assignment left right _ leftIH rightIH =>
      rcases List.mem_append.mp among with front | inRight
      · rcases List.mem_cons.mp front with rfl | inLeft
        · exact Nat.le_refl _
        · have lower := leftIH inLeft
          rw [height]
          omega
      · have lower := rightIH inRight
        rw [height]
        omega

end Expr

namespace Action

def nodes : Action → List Expr
  | expression value => value.nodes
  | declaration _ _ _ none => []
  | declaration _ _ _ (some value) => value.nodes

def leaves : Action → List Expr
  | expression value => value.leaves
  | declaration _ name nameSpan none => [.name name nameSpan]
  | declaration _ name nameSpan (some value) => .name name nameSpan :: value.leaves

end Action

def Program.nodes (program : Program) : List Expr :=
  program.statements.flatMap fun statement => statement.action.nodes

def Program.leaves (program : Program) : List Expr :=
  program.statements.flatMap fun statement => statement.action.leaves

namespace Grammar

variable {tokens : List Token} {node : Expr}

/-- A node of a program belongs to a value that some of its tokens derive. -/
theorem DerivesAction.exists_value {action : Action} (derived : DerivesAction Limited tokens action)
    (among : node ∈ action.nodes) :
    ∃ part value, part <:+: tokens ∧ Limited part value ∧ node ∈ value.nodes := by
  cases derived with
  | bare => cases among
  | @initialized _ keyword name equals semicolon part _ _ _ _ value _ =>
      exact ⟨part, _, ⟨[keyword, name, equals], [semicolon], rfl⟩, value, among⟩
  | expression value => exact ⟨_, _, (List.prefix_append _ _).isInfix, value, among⟩

theorem DerivesStatements.exists_value {statements : List Statement}
    (derived : DerivesStatements Limited tokens statements)
    (among : node ∈ statements.flatMap fun statement => statement.action.nodes) :
    ∃ part value, part <:+: tokens ∧ Limited part value ∧ node ∈ value.nodes := by
  induction derived with
  | nil => cases among
  | last value =>
      rw [List.flatMap_singleton] at among
      exact ⟨_, _, List.infix_rfl, value, among⟩
  | cons first _ ih =>
      rw [List.flatMap_cons] at among
      rcases List.mem_append.mp among with inFirst | inRest
      · obtain ⟨part, value, inside, admitted, inValue⟩ := first.exists_value inFirst
        exact ⟨part, value, inside.trans (List.prefix_append _ _).isInfix, admitted, inValue⟩
      · obtain ⟨part, value, inside, admitted, inValue⟩ := ih inRest
        exact ⟨part, value, inside.trans (List.suffix_append _ _).isInfix, admitted, inValue⟩

end Grammar

/-! ## Tokens at leaves -/

/-- A token that becomes a leaf. -/
def Token.isOperand (token : Token) : Bool :=
  token.kind = .identifier || token.kind = .number

/-- A leaf that a token becomes. -/
inductive Token.Becomes (token : Token) : Expr → Prop where
  | name : token.kind = .identifier → Becomes token (.name token.text token.span)
  | number {value : Float} : token.kind = .number → Number.read? token.text = some value →
      Becomes token (.number value token.span)

theorem Token.Becomes.span_eq {token : Token} {leaf : Expr} (becomes : token.Becomes leaf) :
    leaf.span = token.span := by
  cases becomes <;> rfl

namespace Grammar

variable {tokens : List Token}

theorem filter_isOperand_link {lefts rights : List Token} {sign : Token}
    (other : ¬sign.isOperand = true) :
    (lefts ++ sign :: rights).filter Token.isOperand =
      lefts.filter Token.isOperand ++ rights.filter Token.isOperand := by
  rw [List.filter_append, List.filter_cons_of_neg other]

theorem filter_isOperand_concat {closing : Token} (other : ¬closing.isOperand = true) :
    (tokens ++ [closing]).filter Token.isOperand = tokens.filter Token.isOperand := by
  rw [filter_isOperand_link other, List.filter_nil, List.append_nil]

theorem Derives.leaves {stage : Stage} {levels : Nat} {tree : Expr}
    (derived : Derives stage levels tokens tree) :
    List.Forall₂ Token.Becomes (tokens.filter Token.isOperand) tree.leaves := by
  induction derived with
  | name kind =>
      rw [List.filter_cons_of_pos (by simp [Token.isOperand, kind])]
      exact .cons (.name kind) .nil
  | number kind numeral =>
      rw [List.filter_cons_of_pos (by simp [Token.isOperand, kind])]
      exact .cons (.number kind numeral) .nil
  | group opens _ closes ih =>
      rw [filter_isOperand_concat (by simp [Token.isOperand, closes]),
        List.filter_cons_of_neg (by simp [Token.isOperand, opens])]
      exact ih
  | factor _ ih | term _ ih | plain _ ih => exact ih
  | product _ sign _ _ leftIH rightIH | sum _ sign _ _ leftIH rightIH =>
      rw [filter_isOperand_link (by simp [Token.isOperand, sign.1])]
      exact List.rel_append leftIH rightIH
  | assignment _ equals _ targetIH valueIH =>
      rw [filter_isOperand_link (by simp [Token.isOperand, equals])]
      exact List.rel_append targetIH valueIH

theorem DerivesAction.leaves {action : Action} (derived : DerivesAction Limited tokens action) :
    List.Forall₂ Token.Becomes (tokens.filter Token.isOperand) action.leaves := by
  cases derived with
  | bare keyword name semicolon =>
      rw [List.filter_cons_of_neg (by simp [Token.isOperand, keyword]),
        List.filter_cons_of_pos (by simp [Token.isOperand, name]),
        List.filter_cons_of_neg (by simp [Token.isOperand, semicolon])]
      exact .cons (.name name) .nil
  | @initialized constant _ _ _ _ _ _ keyword name equals value semicolon =>
      rw [filter_isOperand_concat (by simp [Token.isOperand, semicolon]),
        List.filter_cons_of_neg (by
          cases constant <;> simp [Token.isOperand, keyword, keywordKind]),
        List.filter_cons_of_pos (by simp [Token.isOperand, name]),
        List.filter_cons_of_neg (by simp [Token.isOperand, equals])]
      exact .cons (.name name) value.derives.leaves
  | expression value semicolon =>
      rw [filter_isOperand_concat (by simp [Token.isOperand, semicolon])]
      exact value.derives.leaves

theorem DerivesStatements.leaves {statements : List Statement}
    (derived : DerivesStatements Limited tokens statements) :
    List.Forall₂ Token.Becomes (tokens.filter Token.isOperand)
      (statements.flatMap fun statement => statement.action.leaves) := by
  induction derived with
  | nil => exact .nil
  | last value =>
      rw [List.flatMap_singleton]
      exact value.derives.leaves
  | cons first _ ih =>
      rw [List.filter_append, List.flatMap_cons]
      exact List.rel_append first.leaves ih

end Grammar

end CalcScript
