import CalcScript.Proofs.Grammar.Basic

/-!
# Runs of tokens read from a stream

What a parser has read is the run of tokens between two states of its stream. A run can be cut
anywhere, and two runs that follow each other make one.
-/

set_option autoImplicit false

namespace CalcScript.Grammar

/-- The tokens between two states of a stream. -/
structure Reads (before : TokenStream) (tokens : List Token) (after : TokenStream) : Prop where
  ahead : before.remaining = tokens ++ after.remaining
  behind : after.lastSpan = lastSpan before.lastSpan tokens

theorem lastSpan_append (before : Span) (first second : List Token) :
    lastSpan before (first ++ second) = lastSpan (lastSpan before first) second :=
  List.foldl_append

theorem Reads.refl (stream : TokenStream) : Reads stream [] stream := ⟨rfl, rfl⟩

theorem Reads.trans {before middle after : TokenStream} {first second : List Token}
    (left : Reads before first middle) (right : Reads middle second after) :
    Reads before (first ++ second) after where
  ahead := by rw [left.ahead, right.ahead, List.append_assoc]
  behind := by rw [right.behind, left.behind, lastSpan_append]

/-- Reading a current token that is not an end of file. -/
theorem Reads.advanced {stream : TokenStream} (proper : stream.current.kind ≠ .endOfFile) :
    Reads stream [stream.current] stream.advanced := by
  obtain ⟨remaining, last⟩ := stream
  cases remaining with
  | nil => exact absurd rfl proper
  | cons token rest => exact ⟨rfl, rfl⟩

theorem Reads.cons {before after : TokenStream} {rest : List Token}
    (proper : before.current.kind ≠ .endOfFile) (read : Reads before.advanced rest after) :
    Reads before (before.current :: rest) after :=
  (Reads.advanced proper).trans read

theorem Reads.current_eq {before after : TokenStream} {first : Token} {rest : List Token}
    (read : Reads before (first :: rest) after) : before.current = first := by
  obtain ⟨remaining, last⟩ := before
  obtain ⟨same, -⟩ := read
  cases same
  rfl

/-- The first token of a run is read by itself, unless it is an end of file. -/
theorem Reads.head {before after : TokenStream} {first : Token} {rest : List Token}
    (read : Reads before (first :: rest) after) (proper : first.kind ≠ .endOfFile) :
    Reads before [first] before.advanced := by
  have current := read.current_eq
  subst current
  exact .advanced proper

theorem Reads.tail {before after : TokenStream} {first : Token} {rest : List Token}
    (read : Reads before (first :: rest) after) : Reads before.advanced rest after := by
  have current := read.current_eq
  obtain ⟨remaining, last⟩ := before
  obtain ⟨same, stop⟩ := read
  cases same
  exact ⟨rfl, stop⟩

theorem Reads.split {before after : TokenStream} {first second : List Token}
    (read : Reads before (first ++ second) after) :
    ∃ middle, Reads before first middle ∧ Reads middle second after := by
  refine ⟨⟨second ++ after.remaining, lastSpan before.lastSpan first⟩, ⟨?_, rfl⟩, ⟨rfl, ?_⟩⟩
  · rw [read.ahead, List.append_assoc]
  · rw [read.behind, lastSpan_append]

theorem Reads.eq_of_nil {before after : TokenStream} (read : Reads before [] after) :
    before = after := by
  obtain ⟨remaining, last⟩ := before
  obtain ⟨other, stop⟩ := after
  obtain ⟨same, place⟩ := read
  cases same
  cases place
  rfl

/-- The last token of a run is the one that the stream remembers. -/
theorem Reads.covering_eq {before after : TokenStream} {tokens : List Token}
    (read : Reads before tokens after) (nonempty : tokens ≠ []) :
    covering tokens = before.current.span.join after.lastSpan := by
  cases tokens with
  | nil => exact absurd rfl nonempty
  | cons first rest =>
      rw [read.current_eq, read.behind]
      rfl

/-- Up to the first end of file, a stream whose run holds none has the run and then the rest. -/
theorem Reads.takeWhile_eq {before after : TokenStream} {tokens : List Token}
    (read : Reads before tokens after) (proper : ∀ token ∈ tokens, token.kind ≠ .endOfFile) :
    before.remaining.takeWhile (fun token => token.kind ≠ .endOfFile) =
      tokens ++ after.remaining.takeWhile (fun token => token.kind ≠ .endOfFile) := by
  rw [read.ahead, List.takeWhile_append_of_pos]
  simpa using proper

/-- A stream is at an end of file if no token is left before the first one. -/
theorem takeWhile_eq_nil_iff {stream : TokenStream} :
    stream.remaining.takeWhile (fun token => token.kind ≠ .endOfFile) = [] ↔
      stream.current.kind = .endOfFile := by
  obtain ⟨remaining, last⟩ := stream
  cases remaining with
  | nil => simp [TokenStream.current, Token.endOfFile]
  | cons token rest => simp [TokenStream.current, List.takeWhile_cons]

/-- A stream can be read up to its first end of file, which it has even if its tokens lack one. -/
theorem exists_reads_to_end (stream : TokenStream) :
    ∃ after, Reads stream (stream.remaining.takeWhile fun token => token.kind ≠ .endOfFile) after ∧
      after.current.kind = .endOfFile := by
  let isInside : Token → Bool := fun token => token.kind ≠ .endOfFile
  let inside := stream.remaining.takeWhile isInside
  refine ⟨⟨stream.remaining.dropWhile isInside, lastSpan stream.lastSpan inside⟩,
    ⟨List.takeWhile_append_dropWhile.symm, rfl⟩, ?_⟩
  apply takeWhile_eq_nil_iff.mp
  cases outside : stream.remaining.dropWhile isInside with
  | nil => rfl
  | cons token rest =>
      have stops := List.head?_dropWhile_not isInside stream.remaining
      rw [outside] at stops
      exact List.takeWhile_cons_of_neg (by simpa [isInside] using stops)

end CalcScript.Grammar
