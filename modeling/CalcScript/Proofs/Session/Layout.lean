import CalcScript.Proofs.Layout.Unplaced
import CalcScript.Session

/-!
# Scripts in another layout

Blanks and line breaks only decide where things stand. Two scripts of the same words do the same in
any session, and all that differs is the places of their errors.
-/

set_option autoImplicit false

namespace CalcScript.Session

/-- What a run comes to when places are left out depends on the words of the script alone. -/
theorem run_unplaced (session : Session) {source : String} {tokens : List Token}
    (scanned : Token.scan source = .ok tokens) :
    ((session.run source).1.mapError Diagnostic.unplaced, (session.run source).2) =
      match Program.ofTokens (tokens.map Token.unplaced) with
      | .error error => (.error (.syntactic error), session)
      | .ok program =>
        ((session.runProgram program).1.mapError .runtime, (session.runProgram program).2) := by
  rw [Program.ofTokens_unplaced]
  cases parsed : Program.ofTokens tokens with
  | error error =>
      rw [run, Program.ofSource, scanned]
      dsimp only
      rw [parsed]
      rfl
  | ok program =>
      have formed : Program.ofSource source = .ok program := by
        rw [Program.ofSource, scanned]
        dsimp only
        rw [parsed]
        rfl
      rw [run_of_ok formed]
      change _ = ((session.runProgram program.unplaced).1.mapError _,
        (session.runProgram program.unplaced).2)
      rw [runProgram_moved]
      cases (session.runProgram program).1 <;> rfl

/-- Scripts of the same words have the same value or the same error, places aside, and leave the
same session. -/
theorem run_of_same_words (session : Session) {first second : String} {tokens others : List Token}
    (scanned : Token.scan first = .ok tokens) (scannedOther : Token.scan second = .ok others)
    (same : tokens.map Token.word = others.map Token.word) :
    (∀ value, (session.run first).1 = .ok value ↔ (session.run second).1 = .ok value) ∧
      (session.run first).1.mapError Diagnostic.unplaced =
        (session.run second).1.mapError Diagnostic.unplaced ∧
      (session.run first).1.mapError Diagnostic.category =
        (session.run second).1.mapError Diagnostic.category ∧
      (session.run first).2 = (session.run second).2 := by
  have agree : ((session.run first).1.mapError Diagnostic.unplaced, (session.run first).2) =
      ((session.run second).1.mapError Diagnostic.unplaced, (session.run second).2) := by
    rw [run_unplaced session scanned, run_unplaced session scannedOther,
      Token.map_unplaced_of_words same]
  obtain ⟨results, states⟩ := Prod.mk.inj agree
  -- a category is that of what is left when places are left out
  have categories (result : Except Diagnostic Value) : result.mapError Diagnostic.category =
      (result.mapError Diagnostic.unplaced).mapError Diagnostic.category := by
    cases result with
    | ok value => rfl
    | error diagnostic =>
        exact congrArg Except.error (diagnostic.category_moved Position.leftOut).symm
  refine ⟨fun value => ?_, results, ?_, states⟩
  · constructor
    · intro ended
      rw [ended] at results
      exact ok_of_mapError_eq_ok results.symm
    · intro ended
      rw [ended] at results
      exact ok_of_mapError_eq_ok results
  · rw [categories, results, ← categories]

/-- An unknown name behind a declaration, on one line and on two. -/
theorem run_of_same_words_two_lines :
    ∃ tokens others, Token.scan "let a;b" = .ok tokens ∧ Token.scan "let a;\n b" = .ok others ∧
      tokens.map Token.word = others.map Token.word ∧ tokens ≠ others ∧
      (start.run "let a;b").1.mapError Diagnostic.unplaced =
        (start.run "let a;\n b").1.mapError Diagnostic.unplaced ∧
      (start.run "let a;b").2 = (start.run "let a;\n b").2 := by
  have scanned : Token.scan "let a;b" = .ok
      [⟨.letKeyword, "let", ⟨0, 1, 1⟩, ⟨3, 1, 4⟩⟩, ⟨.identifier, "a", ⟨4, 1, 5⟩, ⟨5, 1, 6⟩⟩,
        ⟨.semicolon, ";", ⟨5, 1, 6⟩, ⟨6, 1, 7⟩⟩, ⟨.identifier, "b", ⟨6, 1, 7⟩, ⟨7, 1, 8⟩⟩,
        .endOfFile ⟨7, 1, 8⟩] :=
    ok_of_toOption_eq_some (by decide +kernel)
  have scannedOther : Token.scan "let a;\n b" = .ok
      [⟨.letKeyword, "let", ⟨0, 1, 1⟩, ⟨3, 1, 4⟩⟩, ⟨.identifier, "a", ⟨4, 1, 5⟩, ⟨5, 1, 6⟩⟩,
        ⟨.semicolon, ";", ⟨5, 1, 6⟩, ⟨6, 1, 7⟩⟩, ⟨.identifier, "b", ⟨8, 2, 2⟩, ⟨9, 2, 3⟩⟩,
        .endOfFile ⟨9, 2, 3⟩] :=
    ok_of_toOption_eq_some (by decide +kernel)
  obtain ⟨-, results, -, states⟩ := run_of_same_words start scanned scannedOther (by decide)
  exact ⟨_, _, scanned, scannedOther, by decide, by decide, results, states⟩

end CalcScript.Session
