import CalcScript.Tree.Basic

/-!
# Trees with stored heights

A node can store its height when it is made, so that nobody has to walk down to the leaves for it. A
leaf stores one, and a compound adds one to the greater of what its two parts store.
-/

set_option autoImplicit false

namespace CalcScript

inductive Gauged where
  | number (value : Float) (span : Span) (height : Nat)
  | name (symbol : String) (span : Span) (height : Nat)
  | binary (operator : Operator) (left right : Gauged) (span : Span) (height : Nat)
  | assignment (target value : Gauged) (span : Span) (height : Nat)
deriving DecidableEq, Repr

namespace Gauged

def span : Gauged → Span
  | number _ span _ | name _ span _ | binary _ _ _ span _ | assignment _ _ span _ => span

/-- The height that a node stores. -/
def height : Gauged → Nat
  | number _ _ height | name _ _ height | binary _ _ _ _ height | assignment _ _ _ height => height

/-- The tree without what its nodes store. -/
def plain : Gauged → Expr
  | number value span _ => .number value span
  | name symbol span _ => .name symbol span
  | binary operator left right span _ => .binary operator left.plain right.plain span
  | assignment target value span _ => .assignment target.plain value.plain span

def leafNumber (value : Float) (span : Span) : Gauged := number value span 1

def leafName (symbol : String) (span : Span) : Gauged := name symbol span 1

def linked (operator : Operator) (left right : Gauged) : Gauged :=
  binary operator left right (left.span.join right.span) (1 + max left.height right.height)

def assigned (target value : Gauged) : Gauged :=
  assignment target value (target.span.join value.span) (1 + max target.height value.height)

/-- Every node stores the number of nodes on the longest path from it down to a leaf. -/
def Exact : Gauged → Prop
  | node@(number ..) | node@(name ..) => node.height = node.plain.height
  | node@(binary _ left right _ _) => node.height = node.plain.height ∧ left.Exact ∧ right.Exact
  | node@(assignment target value _ _) =>
    node.height = node.plain.height ∧ target.Exact ∧ value.Exact

@[simp]
theorem span_plain (tree : Gauged) : tree.plain.span = tree.span := by
  cases tree <;> rfl

theorem Exact.height_eq {tree : Gauged} (isExact : tree.Exact) :
    tree.height = tree.plain.height := by
  cases tree with
  | number | name => exact isExact
  | binary | assignment => exact isExact.1

@[simp]
theorem plain_linked (operator : Operator) (left right : Gauged) :
    (linked operator left right).plain = .linked operator left.plain right.plain := by
  simp only [linked, plain, Expr.linked, span_plain]

@[simp]
theorem plain_assigned (target value : Gauged) :
    (assigned target value).plain = .assigned target.plain value.plain := by
  simp only [assigned, plain, Expr.assigned, span_plain]

theorem Exact.linked {left right : Gauged} (exactLeft : left.Exact) (exactRight : right.Exact)
    (operator : Operator) : (Gauged.linked operator left right).Exact := by
  refine ⟨?_, exactLeft, exactRight⟩
  change 1 + max left.height right.height = 1 + max left.plain.height right.plain.height
  rw [exactLeft.height_eq, exactRight.height_eq]

theorem Exact.assigned {target value : Gauged} (exactTarget : target.Exact)
    (exactValue : value.Exact) : (Gauged.assigned target value).Exact := by
  refine ⟨?_, exactTarget, exactValue⟩
  change 1 + max target.height value.height = 1 + max target.plain.height value.plain.height
  rw [exactTarget.height_eq, exactValue.height_eq]

end Gauged

end CalcScript
