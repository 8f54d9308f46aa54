import CalcScript.Proofs.Layout.Parsing
import CalcScript.Proofs.Layout.Runs
import CalcScript.Proofs.Outcomes

/-!
# Leaving places out

To leave the places of a thing out is to move them all to one. This is an orderly move, so the
parser and the evaluator, which never look at places, keep to it: the same words in the same order
give the same program and the same errors, whatever their layout.
-/

set_option autoImplicit false

namespace CalcScript

/-- The move of all places to one. -/
def Position.leftOut (_ : Position) : Position := unplaced

theorem Position.orderly_leftOut : Orderly leftOut where
  earlier _ _ := (ite_self _).symm
  later _ _ := (ite_self _).symm

/-! What is left when places do not count. -/

abbrev Token.unplaced (token : Token) : Token := token.moved Position.leftOut

abbrev Expr.unplaced (tree : Expr) : Expr := tree.moved Position.leftOut

abbrev Action.unplaced (action : Action) : Action := action.moved Position.leftOut

abbrev Statement.unplaced (statement : Statement) : Statement := statement.moved Position.leftOut

abbrev Program.unplaced (program : Program) : Program := program.moved Position.leftOut

abbrev SyntaxError.unplaced (error : SyntaxError) : SyntaxError := error.moved Position.leftOut

abbrev Diagnostic.unplaced (diagnostic : Diagnostic) : Diagnostic :=
  diagnostic.moved Position.leftOut

/-- What a token is, wherever it stands. -/
def Token.word (token : Token) : TokenKind × String := (token.kind, token.text)

section SameWords

variable {first second : List Token}

theorem Token.map_unplaced_of_words (same : first.map Token.word = second.map Token.word) :
    first.map Token.unplaced = second.map Token.unplaced := by
  have rebuilt (tokens : List Token) : tokens.map Token.unplaced =
      (tokens.map Token.word).map fun word => ⟨word.1, word.2, Span.unplaced⟩ := by
    rw [List.map_map]
    rfl
  rw [rebuilt, rebuilt, same]

theorem Program.ofTokens_unplaced (tokens : List Token) :
    Program.ofTokens (tokens.map Token.unplaced) =
      ((Program.ofTokens tokens).map Program.unplaced).mapError SyntaxError.unplaced :=
  ofTokens_moved Position.orderly_leftOut rfl tokens

/-- The same words form the same program. -/
theorem Program.exists_ofTokens_of_words (same : first.map Token.word = second.map Token.word)
    {program : Program} (formed : Program.ofTokens first = .ok program) :
    ∃ other, Program.ofTokens second = .ok other ∧ other.unplaced = program.unplaced := by
  have outcomes : (Except.ok program.unplaced : Except SyntaxError Program) =
      ((Program.ofTokens second).map Program.unplaced).mapError SyntaxError.unplaced := by
    rw [← ofTokens_unplaced, ← Token.map_unplaced_of_words same, ofTokens_unplaced, formed]
    rfl
  obtain ⟨other, formedOther, unplaced⟩ :=
    exists_of_map_eq_ok (ok_of_mapError_eq_ok outcomes.symm)
  exact ⟨other, formedOther, unplaced⟩

end SameWords

theorem SyntaxFault.category_moved (move : Position → Position) (fault : SyntaxFault) :
    (fault.moved move).category = fault.category := by
  cases fault <;> rfl

theorem Diagnostic.category_moved (move : Position → Position) (diagnostic : Diagnostic) :
    (diagnostic.moved move).category = diagnostic.category := by
  cases diagnostic with
  | syntactic error => exact error.fault.category_moved move
  | lexical | runtime => rfl

end CalcScript
