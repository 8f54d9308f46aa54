import CalcScript.Proofs.Grammar.Rejections

/-!
# The end of file

No parser passes an end of file, whether it succeeds or fails. So what stands behind the first one
plays no part, and tokens that lack one are read as if it stood behind the last of them: a program
is decided by what is visible of its tokens, which is all up to the first end of file.
-/

set_option autoImplicit false

namespace CalcScript.Grammar

open CalcScript.Parser

/-- Passing tokens one by one, none of which is an end of file. -/
inductive Passes : TokenStream → TokenStream → Prop where
  | none {stream : TokenStream} : Passes stream stream
  | next {stream after : TokenStream} :
      stream.current.kind ≠ .endOfFile → Passes stream.advanced after → Passes stream after

/-- Where a parser has stopped, with a result or an error. -/
def stopped {α : Type} : EStateM.Result SyntaxError TokenStream α → TokenStream
  | .ok _ after => after
  | .error _ after => after

/-- The tokens behind another up to the first end of file, and it. -/
def visibleBehind (before : Span) : List Token → List Token
  | [] => [.endOfFile before.stop]
  | token :: later =>
    if token.kind = .endOfFile then [token] else token :: visibleBehind token.span later

/-- What is visible of a stream. -/
def visible (stream : TokenStream) : List Token := visibleBehind stream.lastSpan stream.remaining

/-! ## No parser passes the end -/

section Passing

variable {before after : TokenStream} {tokens : List Token}

theorem Reads.passes (reads : Reads before tokens after)
    (proper : ∀ token ∈ tokens, token.kind ≠ .endOfFile) : Passes before after := by
  induction tokens generalizing before with
  | nil =>
      cases reads.eq_of_nil
      exact .none
  | cons token later ih =>
      obtain ⟨here, beyond⟩ := List.forall_mem_cons.mp proper
      exact .next (reads.current_eq ▸ here) (ih reads.tail beyond)

theorem passes_of_sound {parser : Parser Expr} {stage : Stage} {levels : Nat}
    (sound : Sound parser (Admits stage levels)) (blames : Blames parser (Fails · stage levels))
    (stream : TokenStream) : Passes stream (stopped (parser stream)) := by
  cases parsed : parser stream with
  | ok tree after =>
      obtain ⟨tokens, reads, admitted⟩ := sound parsed
      exact reads.passes admitted.derives.proper
  | error error after =>
      obtain ⟨tokens, reads, fails⟩ := blames parsed
      exact reads.passes fails.proper

theorem Stage.passes (stage : Stage) (levels : Nat) (stream : TokenStream) :
    Passes stream (stopped (stage.parser levels stream)) := by
  have nestedSound : Sound (expressionWithin levels) _ := expressionWithin_sound levels
  have nestedBlames := expressionWithin_blames levels
  have operandSound : Sound _ _ := primary_sound nestedSound
  have operandBlames := primary_blames nestedSound (expressionWithin_ends levels) nestedBlames
  have factorBlames := multiplicative_blames nestedSound operandBlames
  cases stage with
  | primary => exact passes_of_sound operandSound operandBlames stream
  | multiplicative => exact passes_of_sound (multiplicative_sound nestedSound) factorBlames stream
  | additive =>
      exact passes_of_sound (additive_sound nestedSound) (additive_blames nestedSound factorBlames)
        stream
  | expression => exact passes_of_sound nestedSound nestedBlames stream

theorem statement_passes (stream : TokenStream) : Passes stream (stopped (statement stream)) := by
  cases parsed : statement stream with
  | ok result after =>
      obtain ⟨tokens, action, reads, -, derived⟩ := statement_sound parsed
      refine reads.passes ?_
      cases derived with
      | closed closed => exact closed.proper fun value => value.derives.proper
      | last value => exact value.derives.proper
  | error error after =>
      obtain ⟨tokens, reads, fails⟩ := statement_blames parsed
      exact reads.passes fails.proper

end Passing

/-! ## What is visible decides -/

section Visible

variable {first second after : TokenStream} {read : List Token}

theorem visible_eq (stream : TokenStream) :
    visible stream =
      if stream.current.kind = .endOfFile then [stream.current]
      else stream.current :: visible stream.advanced := by
  obtain ⟨remaining, last⟩ := stream
  cases remaining with
  | nil => exact (if_pos rfl).symm
  | cons token later => rfl

theorem current_eq_of_visible (same : visible first = visible second) :
    first.current = second.current := by
  have heads := congrArg List.head? same
  rw [visible_eq, visible_eq second] at heads
  split at heads <;> split at heads <;> exact Option.some.inj heads

theorem visible_advanced (same : visible first = visible second)
    (proper : first.current.kind ≠ .endOfFile) :
    visible first.advanced = visible second.advanced := by
  have current := current_eq_of_visible same
  rw [visible_eq, visible_eq second, ← current, if_neg proper, if_neg proper] at same
  exact List.tail_eq_of_cons_eq same

/-- What is read from a stream is read in the same way from one of which the same is visible. -/
theorem Reads.exists_of_visible (reads : Reads first read after)
    (proper : ∀ token ∈ read, token.kind ≠ .endOfFile) (same : visible first = visible second) :
    ∃ other, Reads second read other ∧ visible after = visible other := by
  induction read generalizing first second with
  | nil =>
      cases reads.eq_of_nil
      exact ⟨second, .refl second, same⟩
  | cons token later ih =>
      obtain ⟨here, beyond⟩ := List.forall_mem_cons.mp proper
      have current := reads.current_eq
      subst current
      obtain ⟨other, readsToo, sameToo⟩ := ih reads.tail beyond (visible_advanced same here)
      have currentToo := current_eq_of_visible same
      rw [currentToo] at here ⊢
      exact ⟨other, .cons here readsToo, sameToo⟩

theorem statements_eq_of_visible (same : visible first = visible second) :
    statements first = statements second := by
  cases parsed : statements first with
  | ok results =>
      obtain ⟨ended, reads, finished⟩ := exists_reads_to_end first
      have derived := statements_sound parsed
      have proper := derived.proper fun value => value.derives.proper
      obtain ⟨other, readsToo, sameToo⟩ := reads.exists_of_visible proper same
      rw [current_eq_of_visible sameToo] at finished
      exact (derived.statements_eq readsToo finished).symm
  | error error =>
      obtain ⟨read, after, reads, fails⟩ := statements_blames parsed
      obtain ⟨other, readsToo, sameToo⟩ := reads.exists_of_visible fails.proper same
      rw [current_eq_of_visible sameToo] at fails
      exact (fails.statements_eq readsToo).symm

theorem visibleBehind_append (before : Span) (tokens : List Token) (ending : Token)
    (rest : List Token) (ends : ending.kind = .endOfFile) :
    visibleBehind before (tokens ++ ending :: rest) =
      visibleBehind before (tokens ++ [ending]) := by
  induction tokens generalizing before with
  | nil => simp only [List.nil_append, visibleBehind, if_pos ends]
  | cons token later ih => simp only [List.cons_append, visibleBehind, ih]

/-- Tokens that run out go on with an end of file where the last of them ends. -/
theorem visibleBehind_append_endOfFile (before : Span) (tokens : List Token) :
    visibleBehind before (tokens ++ [.endOfFile (lastSpan before tokens).stop]) =
      visibleBehind before tokens := by
  induction tokens generalizing before with
  | nil => rfl
  | cons token later ih =>
      have beyond := ih token.span
      simp only [List.cons_append, visibleBehind]
      split
      · rfl
      · exact congrArg (token :: ·) beyond

end Visible

/-- A program ends at the first end of file among its tokens, whatever stands behind it, and else at
one behind the last of them. No part of the parser goes beyond it, on any tokens. -/
theorem endOfFile_never_passed (tokens : List Token) :
    (∀ text span rest, Program.ofTokens (tokens ++ [⟨.endOfFile, text, span⟩] ++ rest) =
        Program.ofTokens (tokens ++ [⟨.endOfFile, text, span⟩])) ∧
      Program.ofTokens tokens =
        Program.ofTokens (tokens ++ [.endOfFile (lastSpan .unplaced tokens).stop]) ∧
      (∀ stage levels stream, Passes stream (stopped (Stage.parser levels stage stream))) ∧
      ∀ stream, Passes stream (stopped (statement stream)) := by
  refine ⟨fun text span rest => ?_, ?_, fun stage => stage.passes, statement_passes⟩
  · have same := visibleBehind_append Span.unplaced tokens ⟨.endOfFile, text, span⟩ rest rfl
    rw [List.append_assoc, List.singleton_append]
    exact congrArg (Except.map Program.mk) (statements_eq_of_visible same)
  · have same := visibleBehind_append_endOfFile Span.unplaced tokens
    exact congrArg (Except.map Program.mk) (statements_eq_of_visible same.symm)

end CalcScript.Grammar
