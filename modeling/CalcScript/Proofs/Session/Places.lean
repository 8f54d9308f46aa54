import CalcScript.Proofs.Evaluation.Order
import CalcScript.Proofs.Grammar.Blame
import CalcScript.Proofs.Grammar.Sources
import CalcScript.Proofs.Layout.Spans
import CalcScript.Proofs.Lexing.Places

/-!
# Places that a session reports

Whatever a session reports of a script lies within the script: its tokens, the parts of its program,
and the place of a diagnostic of any kind. What a diagnostic points at can always be cut out.
-/

set_option autoImplicit false

namespace CalcScript

/-- A run without an end of file stops in front of a token of the stream, if the stream has one. -/
theorem Grammar.Reads.current_mem {before after : TokenStream} {tokens : List Token}
    (read : Reads before tokens after) (proper : ∀ token ∈ tokens, token.kind ≠ .endOfFile)
    (ended : ∃ token ∈ before.remaining, token.kind = .endOfFile) :
    after.current ∈ before.remaining := by
  obtain ⟨last, among, kind⟩ := ended
  rw [read.ahead] at among ⊢
  refine List.mem_append_right _ ?_
  rcases List.mem_append.mp among with inTokens | ahead
  · exact absurd kind (proper last inTokens)
  · obtain ⟨remaining, place⟩ := after
    cases remaining with
    | nil => cases ahead
    | cons token rest => exact List.mem_cons_self

/-- A property of spans that the tokens of a text and its foreign character have, and that spans
joined from spans with the property have as well. -/
structure Span.Inherited (Good : Span → Prop) (source : String) : Prop where
  joins : ∀ {left right : Span}, Good left → Good right → Good (left.join right)
  token : ∀ {tokens : List Token}, Token.scan source = .ok tokens → ∀ token ∈ tokens, Good token.span
  foreign : ∀ {error : ForeignCharacter}, Token.scan source = .error error → Good error.span

theorem Span.within_inherited (source : String) : Inherited (·.Within source) source where
  joins := Within.join
  token := fun scanned _ among => Token.scan_tokens_within scanned among
  foreign := Token.scan_error_within

section Inherited

variable {Good : Span → Prop} {source : String}

theorem Program.good_spans (inherited : Span.Inherited Good source) {program : Program}
    (formed : Program.ofSource source = .ok program) : ∀ span ∈ program.spans, Good span := by
  obtain ⟨tokens, scanned, derived⟩ := Program.ofSource_eq_ok_iff_derives.mp formed
  refine derived.good_spans Good inherited.joins fun token among => ?_
  exact inherited.token scanned token (List.dropLast_subset _ among)

/-- A syntax error is about the tokens read and the one in front of the parser, and these are all
tokens of the text, because its end is never read. -/
theorem Token.exists_fails {tokens : List Token} (scanned : Token.scan source = .ok tokens)
    {error : SyntaxError} (failed : Program.ofTokens tokens = .error error) :
    ∃ read next, Grammar.FailsStatements next read error ∧ next ∈ tokens ∧ read ⊆ tokens := by
  have ended : ∃ token ∈ tokens, token.kind = .endOfFile := by
    rw [(Token.scan_eq_ok_iff.mp scanned).eq_concat [] (Position.start_advance [])]
    exact ⟨_, List.mem_append_right _ List.mem_cons_self, rfl⟩
  obtain ⟨read, after, reads, fails⟩ :=
    Grammar.statements_blames (Grammar.statements_of_ofTokens failed)
  have ahead : tokens = read ++ after.remaining := reads.ahead
  refine ⟨read, after.current, fails, reads.current_mem fails.proper ended, ?_⟩
  rw [ahead]
  exact List.subset_append_left _ _

theorem Program.ofSource_error_good (inherited : Span.Inherited Good source)
    {diagnostic : Diagnostic} (failed : Program.ofSource source = .error diagnostic) :
    Good diagnostic.span := by
  rw [Program.ofSource] at failed
  cases scanned : Token.scan source with
  | error error =>
      rw [scanned] at failed
      cases failed
      exact inherited.foreign scanned
  | ok tokens =>
      rw [scanned] at failed
      dsimp only at failed
      cases parsed : Program.ofTokens tokens with
      | ok program =>
          rw [parsed] at failed
          cases failed
      | error error =>
          rw [parsed] at failed
          cases failed
          obtain ⟨read, next, fails, nextAmong, readAmong⟩ := Token.exists_fails scanned parsed
          exact fails.good_span Good inherited.joins (inherited.token scanned next nextAmong)
            fun token among => inherited.token scanned token (readAmong among)

theorem Session.error_good (inherited : Span.Inherited Good source) {session after : Session}
    {diagnostic : Diagnostic} (failed : session.run source = (.error diagnostic, after)) :
    Good diagnostic.span := by
  cases formed : Program.ofSource source with
  | error other =>
      rw [Session.run, formed] at failed
      cases failed
      exact Program.ofSource_error_good inherited formed
  | ok program =>
      rw [Session.run_of_ok formed] at failed
      rcases ran : session.runProgram program with ⟨result, last⟩
      rw [ran] at failed
      cases result with
      | ok value => cases failed
      | error error =>
          cases failed
          have fails := Session.runProgram_eq_error_iff.mp ran
          exact Program.good_spans inherited formed _ (Program.span_mem_spans fails)

end Inherited

theorem Program.spans_within {source : String} {program : Program}
    (formed : Program.ofSource source = .ok program) :
    ∀ span ∈ program.spans, span.Within source :=
  Program.good_spans (Span.within_inherited source) formed

theorem Session.error_within {session after : Session} {source : String} {diagnostic : Diagnostic}
    (failed : session.run source = (.error diagnostic, after)) :
    diagnostic.span.Within source :=
  Session.error_good (Span.within_inherited source) failed

/-- All places of a script that are ever reported are places of the script. -/
theorem Session.reports_within (session : Session) (source : String) :
    (∀ tokens, Token.scan source = .ok tokens → ∀ token ∈ tokens, token.span.Within source) ∧
      (∀ program, Program.ofSource source = .ok program →
        ∀ span ∈ program.spans, span.Within source) ∧
      ∀ diagnostic after, session.run source = (.error diagnostic, after) →
        diagnostic.span.Within source ∧ (diagnostic.span.extract? source).isSome = true := by
  refine ⟨fun tokens scanned token among => Token.scan_tokens_within scanned among,
    fun program formed => Program.spans_within formed, fun diagnostic after failed => ?_⟩
  have within := Session.error_within failed
  exact ⟨within, within.extract?_isSome⟩

end CalcScript
