import CalcScript.Proofs.Grammar.Completeness
import CalcScript.Proofs.Layout.Derivations
import CalcScript.Proofs.Lexing.Seam
import CalcScript.Proofs.Outcomes
import CalcScript.Session

/-!
# The programs of texts

A text is a program if its tokens, the end of the text left aside, derive it. The statements of a
text in two pieces are those of its pieces, if the first is blank or ends with a semicolon.
-/

set_option autoImplicit false

namespace CalcScript

theorem Program.ofSource_eq_ok_iff {source : String} {program : Program} :
    Program.ofSource source = .ok program ↔
      ∃ tokens, Token.scan source = .ok tokens ∧ Program.ofTokens tokens = .ok program := by
  rw [Program.ofSource]
  cases Token.scan source with
  | error error =>
      constructor
      · intro failed
        cases failed
      · rintro ⟨tokens, scanned, -⟩
        cases scanned
  | ok tokens =>
      constructor
      · intro formed
        exact ⟨tokens, rfl, ok_of_mapError_eq_ok formed⟩
      · rintro ⟨_, scanned, formed⟩
        cases scanned
        exact congrArg (Except.mapError Diagnostic.syntactic) formed

theorem Token.Splits.ofTokens_eq_ok_iff {place : Position} {characters : List Char}
    {tokens : List Token} (splits : Splits place characters tokens) {program : Program} :
    Program.ofTokens tokens = .ok program ↔
      Grammar.DerivesStatements Grammar.Limited tokens.dropLast program.statements := by
  rw [Program.ofTokens_eq_ok_iff, Grammar.statements_eq_ok_iff, ← splits.takeWhile_eq]
  rfl

/-- The programs of a text, said in terms of its split and of the grammar. -/
theorem Program.ofSource_eq_ok_iff_derives {source : String} {program : Program} :
    Program.ofSource source = .ok program ↔
      ∃ tokens, Token.scan source = .ok tokens ∧
        Grammar.DerivesStatements Grammar.Limited tokens.dropLast program.statements := by
  rw [Program.ofSource_eq_ok_iff]
  exact exists_congr fun tokens => and_congr_right fun scanned =>
    (Token.scan_eq_ok_iff.mp scanned).ofTokens_eq_ok_iff

/-- The statements of a text in two pieces. -/
theorem Program.ofSource_append {first second : String} {tokens : List Token}
    {earlier later : Program} (formed : Program.ofSource first = .ok earlier)
    (formedLater : Program.ofSource second = .ok later) (scanned : Token.scan first = .ok tokens)
    (closed : Token.Closed tokens) :
    Program.ofSource (first ++ second) =
      .ok ⟨earlier.statements ++ (later.moved (Position.ofEnd first).plus).statements⟩ := by
  obtain ⟨same, again, derives⟩ := Program.ofSource_eq_ok_iff_derives.mp formed
  cases again.symm.trans scanned
  obtain ⟨rest, scannedLater, derivesLater⟩ := Program.ofSource_eq_ok_iff_derives.mp formedLater
  have seam := (Token.scan_eq_ok_iff.mp scanned).seam_of_closed closed second.toList
  refine Program.ofSource_eq_ok_iff_derives.mpr
    ⟨_, Token.scan_append scanned scannedLater seam, ?_⟩
  -- only the end of the second piece is left in the tokens of both
  have nonempty := (Token.scan_eq_ok_iff.mp scannedLater).ne_nil
  rw [List.dropLast_append_of_ne_nil (by simpa using nonempty), ← List.map_dropLast]
  exact derives.append closed (derivesLater.moved (Position.orderly_plus _))

end CalcScript
