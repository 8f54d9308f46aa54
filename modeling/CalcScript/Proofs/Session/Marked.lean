import CalcScript.Proofs.Layout.Marker
import CalcScript.Proofs.Printing.Messages

/-!
# The marker under an error

A diagnostic is shown in five lines. The fourth is the line of the script on which the error starts,
and the fifth has carets exactly under the part of the error on that line.
-/

set_option autoImplicit false

namespace CalcScript

/-- What stands in front of a marker below a character. -/
def Text.blanked (character : Char) : Char := if character = '\t' then '\t' else ' '

theorem Text.blankedBefore_append (front rest : List Char) :
    blankedBefore (front ++ rest) (1 + front.length) = String.ofList (front.map blanked) := by
  rw [blankedBefore, Nat.add_sub_cancel_left, List.take_left]
  rfl

theorem Text.not_mem_repeated {count : Nat} {character : Char} (other : character ≠ '\n') :
    '\n' ∉ (repeated count character).toList := by
  rw [repeated, String.toList_ofList]
  exact fun among => other (List.eq_of_mem_replicate among).symm

theorem Text.not_mem_blanked (front : List Char) : '\n' ∉ front.map blanked := by
  intro among
  obtain ⟨character, -, same⟩ := List.mem_map.mp among
  unfold blanked at same
  split at same <;> cases same

namespace Diagnostic

/-- The lines in which a diagnostic is shown, with the carets below a part of the line of the
script. -/
def shownLines (diagnostic : Diagnostic) (front covered beyond : List Char) : List (List Char) :=
  let number := toString diagnostic.span.start.line
  let gutter := Text.repeated number.length ' '
  [(diagnostic.category.name ++ " error: " ++ diagnostic.message).toList,
    (gutter ++ " --> " ++ diagnostic.span.shown).toList,
    (gutter ++ " |").toList,
    (number ++ " | ").toList ++ (front ++ covered ++ beyond),
    (gutter ++ " | ").toList ++ front.map Text.blanked ++
      List.replicate (max 1 covered.length) '^']

theorem marked_toList {diagnostic : Diagnostic} {source : String} {front covered beyond : List Char}
    (stands : diagnostic.span.StandsOn source front covered beyond)
    (columns : diagnostic.span.markedColumns (front ++ covered ++ beyond) = max 1 covered.length) :
    (diagnostic.marked source).toList =
      ['\n'].intercalate (diagnostic.shownLines front covered beyond) := by
  have padding : Text.blankedBefore (front ++ covered ++ beyond) diagnostic.span.start.column =
      String.ofList (front.map Text.blanked) := by
    rw [stands.column, List.append_assoc, Text.blankedBefore_append]
  dsimp only [marked]
  rw [stands.line.line_eq, padding, columns]
  simp [shownLines, Text.repeated, List.intercalate]

theorem not_mem_shownLines {diagnostic : Diagnostic} {front covered beyond : List Char}
    (message : '\n' ∉ diagnostic.message.toList) (unbroken : '\n' ∉ front ++ covered ++ beyond) :
    ∀ line ∈ diagnostic.shownLines front covered beyond, '\n' ∉ line := by
  have category : '\n' ∉ diagnostic.category.name.toList := by
    cases diagnostic.category <;> decide
  have gutter (width : Nat) : '\n' ∉ (Text.repeated width ' ').toList :=
    Text.not_mem_repeated (by decide)
  have shown : '\n' ∉ diagnostic.span.shown.toList := diagnostic.span.start.not_mem_shown
  have padding := Text.not_mem_blanked front
  have carets : '\n' ∉ List.replicate (max 1 covered.length) '^' := by simp
  have number := Text.not_mem_toDigits (by decide : 1 < 10) diagnostic.span.start.line
  simp only [shownLines, List.forall_mem_cons, List.mem_append, String.toList_append, not_or]
  refine ⟨?_, ?_, ?_, ?_, ?_, List.forall_mem_nil _⟩
  all_goals simp_all

end Diagnostic

/-- A span of whole words is passed on to all places that are reported of a text. -/
theorem Span.tight_inherited (source : String) : Inherited (·.Tight source) source where
  joins := Tight.join
  token := fun scanned => (Token.scan_eq_ok_iff.mp scanned).tight (Position.start_advance []) rfl
  foreign := Token.scan_error_tight

/-- A script without a value is shown in five lines: the message, the place, an empty one, the line
of the script where the error starts, and carets under the part of the error on that line, at least
one. -/
theorem evaluate_marked {source : String} {diagnostic : Diagnostic}
    (failed : evaluate source = .error diagnostic) :
    ∃ front covered beyond, diagnostic.span.StandsOn source front covered beyond ∧
      (diagnostic.marked source).toList.splitOn '\n' =
        diagnostic.shownLines front covered beyond ∧
      front.length + max 1 covered.length ≤ (front ++ covered ++ beyond).length + 1 := by
  have message := Session.not_mem_message ScopeStack.standard_rootAlone failed
  have ran : Session.start.run source = (.error diagnostic, (Session.start.run source).2) :=
    Prod.ext failed rfl
  have tight := Session.error_good (Span.tight_inherited source) ran
  obtain ⟨front, covered, beyond, stands, columns⟩ := tight.exists_standsOn
  obtain ⟨earlier, rest, -, -, -, unbroken, -⟩ := stands.line
  refine ⟨front, covered, beyond, stands, ?_, ?_⟩
  · rw [Diagnostic.marked_toList stands columns]
    exact List.splitOn_intercalate '\n' (Diagnostic.not_mem_shownLines message unbroken)
      (List.cons_ne_nil _ _)
  · simp only [List.length_append]
    omega

open Grammar in
/-- An error over two lines, behind a tab and a line that takes more bytes than columns. -/
theorem evaluate_marked_two_lines :
    ∃ diagnostic, evaluate "let é;\r\n\ttrue =\r\n é" = .error diagnostic ∧
      diagnostic.marked "let é;\r\n\ttrue =\r\n é" =
        "Semantic error: Cannot reassign `true` as it was declared constant at 2:2\n" ++
          "  --> 2:2\n  |\n2 | \ttrue =\n  | \t^^^^^^" ∧
      ∃ front covered beyond,
        diagnostic.span.StandsOn "let é;\r\n\ttrue =\r\n é" front covered beyond ∧
        (diagnostic.marked "let é;\r\n\ttrue =\r\n é").toList.splitOn '\n' =
          diagnostic.shownLines front covered beyond ∧
        front.length + max 1 covered.length ≤ (front ++ covered ++ beyond).length + 1 := by
  have scanned : Token.scan "let é;\r\n\ttrue =\r\n é" = .ok
      [⟨.letKeyword, "let", ⟨0, 1, 1⟩, ⟨3, 1, 4⟩⟩, ⟨.identifier, "é", ⟨4, 1, 5⟩, ⟨6, 1, 6⟩⟩,
        ⟨.semicolon, ";", ⟨6, 1, 6⟩, ⟨7, 1, 7⟩⟩, ⟨.identifier, "true", ⟨10, 2, 2⟩, ⟨14, 2, 6⟩⟩,
        ⟨.equals, "=", ⟨15, 2, 7⟩, ⟨16, 2, 8⟩⟩, ⟨.identifier, "é", ⟨19, 3, 2⟩, ⟨21, 3, 3⟩⟩,
        .endOfFile ⟨21, 3, 3⟩] :=
    ok_of_toOption_eq_some (by decide +kernel)
  have target : Derives .additive 127 [⟨.identifier, "true", ⟨10, 2, 2⟩, ⟨14, 2, 6⟩⟩]
      (.name "true" ⟨⟨10, 2, 2⟩, ⟨14, 2, 6⟩⟩) := .term (.factor (.name rfl))
  have value : Derives .expression 127 [⟨.identifier, "é", ⟨19, 3, 2⟩, ⟨21, 3, 3⟩⟩]
      (.name "é" ⟨⟨19, 3, 2⟩, ⟨21, 3, 3⟩⟩) := .plain (.term (.factor (.name rfl)))
  have formed := Program.ofSource_eq_ok_iff_derives.mpr
    ⟨_, scanned, .cons (.bare rfl rfl rfl) (.last ⟨.assignment target rfl value, by decide⟩)⟩
  have failed : evaluate "let é;\r\n\ttrue =\r\n é" = .error (.runtime
      ⟨.constantReassignment "true", ⟨⟨10, 2, 2⟩, ⟨21, 3, 3⟩⟩⟩) := by
    rw [evaluate, Session.run_of_ok formed]
    rfl
  exact ⟨_, failed, by decide +kernel, evaluate_marked failed⟩

end CalcScript
