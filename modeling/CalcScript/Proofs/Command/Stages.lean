import CalcScript.Proofs.Command.Requests

/-!
# How the command ends

A script goes through three stages: it is split into tokens, the tokens form a program, and the
program runs. The stage that fails first decides what the command writes and how it ends, in the
same way for a script from a file and for one that is piped in, and as evaluating the script says.
-/

set_option autoImplicit false

namespace CalcScript.Command

/-- The list of the tokens, if the options ask for it. -/
def Options.tokenText (options : Options) (tokens : List Token) : String :=
  if options.tokens then String.join (tokens.map tokenLine) else ""

/-- The tree of the program, if the options ask for it. -/
def Options.treeText (options : Options) (program : Program) : String :=
  if options.tree then program.printed ++ "\n" else ""

/-- What the command leaves behind for a script without a value. -/
def Outcome.reporting (diagnostic : Diagnostic) (source output : String) : Outcome :=
  ⟨diagnostic.category.exitCode, output, diagnostic.marked source ++ "\n"⟩

/-- What becomes of a script by itself and in the command, by the stage that it does not get
through. -/
inductive Ends (options : Options) (source : String) : Except Diagnostic Value → Outcome → Prop where
  | foreign {error : ForeignCharacter} (scanned : Token.scan source = .error error) :
      Ends options source (.error (.lexical error))
        (.reporting (.lexical error) source "")
  | malformed {tokens : List Token} {error : SyntaxError} (scanned : Token.scan source = .ok tokens)
      (rejected : Program.ofTokens tokens = .error error) :
      Ends options source (.error (.syntactic error))
        (.reporting (.syntactic error) source (options.tokenText tokens))
  | failed {tokens : List Token} {program : Program} {error : RuntimeError}
      (scanned : Token.scan source = .ok tokens) (formed : Program.ofTokens tokens = .ok program)
      (ran : (Session.start.runProgram program).1 = .error error) :
      Ends options source (.error (.runtime error))
        (.reporting (.runtime error) source
          (options.tokenText tokens ++ options.treeText program))
  | done {tokens : List Token} {program : Program} {value : Value}
      (scanned : Token.scan source = .ok tokens) (formed : Program.ofTokens tokens = .ok program)
      (ran : (Session.start.runProgram program).1 = .ok value) :
      Ends options source (.ok value)
        ⟨0, options.tokenText tokens ++ options.treeText program ++ value.text ++ "\n", ""⟩

/-- What the command writes before it runs a script is found out again from the script. -/
theorem runScript_ends (options : Options) (source : String) :
    Ends options source (evaluate source) (runScript options source) := by
  cases scanned : Token.scan source with
  | error error =>
      have unformed : Program.ofSource source = .error (.lexical error) := by
        simp [Program.ofSource, scanned]
      have evaluated : evaluate source = .error (.lexical error) := by
        simp [evaluate, Session.run, unformed]
      have ends : Ends options source _ _ := .foreign scanned
      simpa [evaluated, runScript, tokenList, tree, unformed, scanned, Outcome.reporting] using ends
  | ok tokens =>
      have tokenListed : tokenList source = String.join (tokens.map tokenLine) := by
        simp [tokenList, scanned]
      cases formed : Program.ofTokens tokens with
      | error error =>
          have unformed : Program.ofSource source = .error (.syntactic error) := by
            simp only [Program.ofSource, scanned, formed]
            rfl
          have evaluated : evaluate source = .error (.syntactic error) := by
            simp [evaluate, Session.run, unformed]
          have ends : Ends options source _ _ := .malformed scanned formed
          simpa [evaluated, runScript, tokenListed, tree, unformed, Options.tokenText,
            Outcome.reporting] using ends
      | ok program =>
          have whole : Program.ofSource source = .ok program := by
            simp only [Program.ofSource, scanned, formed]
            rfl
          have treeShown : tree source = program.printed ++ "\n" := by simp [tree, whole]
          cases ran : (Session.start.runProgram program).1 with
          | error error =>
              have evaluated : evaluate source = .error (.runtime error) := by
                simp only [evaluate, Session.run_of_ok whole, ran]
                rfl
              have ends : Ends options source _ _ := .failed scanned formed ran
              simpa [evaluated, runScript, tokenListed, treeShown, Options.tokenText,
                Options.treeText, Outcome.reporting] using ends
          | ok value =>
              have evaluated : evaluate source = .ok value := by
                simp only [evaluate, Session.run_of_ok whole, ran]
                rfl
              have ends : Ends options source _ _ := .done scanned formed ran
              simpa [evaluated, runScript, tokenListed, treeShown, Options.tokenText,
                Options.treeText] using ends

namespace Ends

variable {options : Options} {source : String} {outcome : Outcome}

theorem of_ok {value : Value} (ends : Ends options source (.ok value) outcome) :
    outcome.code = 0 ∧ outcome.errors = "" := by
  cases ends
  exact ⟨rfl, rfl⟩

theorem of_error {diagnostic : Diagnostic}
    (ends : Ends options source (.error diagnostic) outcome) :
    (diagnostic.category, outcome.code) ∈ [(.lexical, 65), (.syntactic, 66), (.semantic, 70)] ∧
      outcome.errors = diagnostic.marked source ++ "\n" := by
  have known (category : Category) : (category, category.exitCode) ∈
      [(.lexical, 65), (.syntactic, 66), (.semantic, 70)] := by
    cases category <;> decide
  cases ends with
  | foreign => exact ⟨known _, rfl⟩
  | malformed => exact ⟨known _, rfl⟩
  | failed => exact ⟨known _, rfl⟩

theorem nonzero_of_error {diagnostic : Diagnostic}
    (ends : Ends options source (.error diagnostic) outcome) :
    outcome.code ≠ 0 ∧ outcome.errors ≠ "" := by
  obtain ⟨known, errors⟩ := ends.of_error
  refine ⟨?_, by simp [errors]⟩
  intro zero
  simp [zero] at known

/-- The code and the errors do not depend on the options. -/
theorem same_report {others : Options} {result : Except Diagnostic Value} {other : Outcome}
    (first : Ends options source result outcome) (second : Ends others source result other) :
    other.code = outcome.code ∧ other.errors = outcome.errors := by
  cases first <;> cases second <;> exact ⟨rfl, rfl⟩

end Ends

theorem decoded_toUTF8 (source : String) : decoded source.toUTF8 = .ok source := by
  have text : String.fromUTF8? source.toUTF8 = some source := by
    simp only [String.fromUTF8?, String.toUTF8_eq_toByteArray, source.isValidUTF8, ↓reduceDIte]
    rfl
  rw [decoded, text]

/-- The command agrees with the evaluation of a script, whichever way the script reaches it and
whatever it is to show besides. -/
theorem agrees_with_evaluate (source : String) (options : Options) :
    (∀ (path? : Option String) (arguments : List String),
      (∀ path ∈ path?, Request.looksLikeOption path = false) →
        arguments.Perm (path?.toList ++ options.flags) →
          Request.ofArguments arguments = .ofPath options path?) ∧
      ∃ outcome, Ends options source (evaluate source) outcome ∧
        (∀ path, runFile path options (.ok source.toUTF8) = outcome) ∧
        runPiped options (.ok source.toUTF8) = outcome ∧
        (∀ others, (runPiped others (.ok source.toUTF8)).code = outcome.code ∧
          (runPiped others (.ok source.toUTF8)).errors = outcome.errors) ∧
        (outcome.code = 0 ↔ ∃ value, evaluate source = .ok value) ∧
        (outcome.errors = "" ↔ ∃ value, evaluate source = .ok value) ∧
        ∀ diagnostic, evaluate source = .error diagnostic →
          (diagnostic.category, outcome.code) ∈
              [(.lexical, 65), (.syntactic, 66), (.semantic, 70)] ∧
            outcome.errors = diagnostic.marked source ++ "\n" := by
  have read : (Except.ok source.toUTF8).bind decoded = .ok source := decoded_toUTF8 source
  have file (path : String) :
      runFile path options (.ok source.toUTF8) = runScript options source := by
    simp only [runFile, read]
  have piped (others : Options) :
      runPiped others (.ok source.toUTF8) = runScript others source := by
    simp only [runPiped, read]
  have ends (others : Options) := runScript_ends others source
  refine ⟨fun _ _ => Request.ofArguments_of_perm, runScript options source, ends options, file,
    piped options, fun others => ?_, ?_⟩
  · simpa only [piped] using (ends options).same_report (ends others)
  cases evaluated : evaluate source with
  | error diagnostic =>
      have ended := ends options
      rw [evaluated] at ended
      obtain ⟨failed, reported⟩ := ended.nonzero_of_error
      refine ⟨by simpa using failed, by simpa using reported, ?_⟩
      rintro _ ⟨⟩
      exact ended.of_error
  | ok value =>
      have ended := ends options
      rw [evaluated] at ended
      obtain ⟨code, errors⟩ := ended.of_ok
      exact ⟨by simp [code], by simp [errors], by simp⟩

end CalcScript.Command
