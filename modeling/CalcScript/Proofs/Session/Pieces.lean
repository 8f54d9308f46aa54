import CalcScript.Proofs.Grammar.Sources
import CalcScript.Proofs.Layout.Runs

/-!
# Scripts in two pieces

A script whose first piece is blank or ends with a semicolon may as well be run piece by piece.
-/

set_option autoImplicit false

namespace CalcScript

/-- A script in two pieces, the first of which is blank or ends with a semicolon, does what its
pieces do one after the other. An error of the first piece ends the script. An error of the second
stands behind the first piece, and a second piece without statements leaves the value as it is. -/
theorem Session.run_append (session : Session) {first second : String} {tokens : List Token}
    {earlier later : Program} (formed : Program.ofSource first = .ok earlier)
    (formedLater : Program.ofSource second = .ok later) (scanned : Token.scan first = .ok tokens)
    (closed : Token.Closed tokens) :
    session.run (first ++ second) =
      match session.run first with
      | (.error diagnostic, after) => (.error diagnostic, after)
      | (.ok value, after) =>
        (if later.statements = [] then .ok value
          else (after.run second).1.mapError (Diagnostic.moved (Position.ofEnd first).plus),
          (after.run second).2) := by
  rw [run_of_ok (Program.ofSource_append formed formedLater scanned closed), run_of_ok formed]
  rcases ran : session.runProgram earlier with ⟨result, after⟩
  cases result with
  | error error =>
      rw [runProgram_append_of_error ran]
      rfl
  | ok value =>
      change _ = (if later.statements = [] then Except.ok value
        else (after.run second).1.mapError _, (after.run second).2)
      rw [run_of_ok formedLater]
      by_cases empty : later.statements = []
      · obtain ⟨statements⟩ := later
        cases empty
        rw [if_pos rfl]
        simp only [Program.moved, List.map_nil, List.append_nil]
        rw [ran]
        rfl
      · have nonempty : (later.moved (Position.ofEnd first).plus).statements ≠ [] := by
          simpa [Program.moved] using empty
        rw [if_neg empty, runProgram_append_of_ok ran nonempty]
        change ((after.runProgram (later.moved _)).1.mapError Diagnostic.runtime, _) = _
        rw [runProgram_moved]
        cases (after.runProgram later).1 <;> rfl

/-- An unknown name on the second line. -/
theorem Session.run_append_second_line :
    (start.run ("let a;\n" ++ "b")).1 =
      .error (.runtime ⟨.unresolved "b", ⟨7, 2, 1⟩, ⟨8, 2, 2⟩⟩) := by
  have scanned : Token.scan "let a;\n" = .ok
      [⟨.letKeyword, "let", ⟨0, 1, 1⟩, ⟨3, 1, 4⟩⟩, ⟨.identifier, "a", ⟨4, 1, 5⟩, ⟨5, 1, 6⟩⟩,
        ⟨.semicolon, ";", ⟨5, 1, 6⟩, ⟨6, 1, 7⟩⟩, .endOfFile ⟨7, 2, 1⟩] :=
    ok_of_toOption_eq_some (by decide +kernel)
  have scannedLater : Token.scan "b" = .ok
      [⟨.identifier, "b", ⟨0, 1, 1⟩, ⟨1, 1, 2⟩⟩, .endOfFile ⟨1, 1, 2⟩] :=
    ok_of_toOption_eq_some (by decide +kernel)
  have formed := Program.ofSource_eq_ok_iff_derives.mpr
    ⟨_, scanned, .cons (.bare rfl rfl rfl) .nil⟩
  have formedLater := Program.ofSource_eq_ok_iff_derives.mpr
    ⟨_, scannedLater, .last ⟨.plain (.term (.factor (.name rfl))), by decide⟩⟩
  rw [run_append start formed formedLater scanned (by decide), run_of_ok formed]
  change Except.mapError _ ((start.runProgram _).2.run "b").1 = _
  rw [run_of_ok formedLater]
  rfl

end CalcScript
