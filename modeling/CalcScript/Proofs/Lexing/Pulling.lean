import CalcScript.Proofs.Lexing.Slices

/-!
# Pulling tokens

Scanning a text at once, asking a reader for one token after another and pulling an iterator give the
same tokens. They differ in what comes behind the tokens: a reader gives the end of the text, or the
foreign character that it stands in front of, as often as it is asked, while an iterator gives it once
and then nothing. A reader that has given it does not move any more.
-/

set_option autoImplicit false

namespace CalcScript.Token

open Position

section Repeating

variable {α : Type}

/-- The first so many of some items and of another that follows them over and over. -/
def repeating (items : List α) (last : α) (calls : Nat) : List α :=
  items.take calls ++ List.replicate (calls - items.length) last

@[simp]
theorem repeating_nil (last : α) (calls : Nat) :
    repeating [] last calls = List.replicate calls last := by
  simp [repeating]

@[simp]
theorem repeating_zero (items : List α) (last : α) : repeating items last 0 = [] := by
  simp [repeating]

@[simp]
theorem repeating_cons (item : α) (items : List α) (last : α) (calls : Nat) :
    repeating (item :: items) last (calls + 1) = item :: repeating items last calls := by
  simp [repeating]

/-- The item that is repeated may as well be counted among the others. -/
theorem repeating_concat (items : List α) (last : α) (calls : Nat) :
    repeating (items ++ [last]) last calls = repeating items last calls := by
  induction items generalizing calls with
  | nil => cases calls <;> simp [List.replicate_succ]
  | cons item items ih => cases calls <;> simp [ih]

end Repeating

/-! ## One call -/

section Ask

variable {reader : Reader} {gap run rest : List Char}
  (blank : ∀ character ∈ gap, isBlank character = true)

include blank

theorem ask_at_end (ahead : reader.ahead = gap) :
    ask reader = (.ok (endOfFile (reader.position.advance gap)), reader.pass gap []) := by
  rw [ask, next_at_end blank ahead]

theorem Foreign.ask_eq {character : Char} (foreign : Foreign character)
    (ahead : reader.ahead = gap ++ character :: rest) :
    ask reader =
      (.error ⟨character, reader.position.advance gap⟩, reader.pass gap (character :: rest)) := by
  rw [ask, foreign.next_eq blank ahead, (foreign.longest_gap blank rest).takeWhile_reader ahead]

theorem Lexeme.ask_eq {kind : TokenKind} (found : Lexeme kind run rest)
    (ahead : reader.ahead = gap ++ (run ++ rest)) :
    ask reader = (.ok ⟨kind, String.ofList run, reader.position.advance gap,
      reader.position.advance (gap ++ run)⟩, reader.pass (gap ++ run) rest) := by
  rw [ask, found.next_eq blank ahead]

end Ask

/-- A reader that gives the same item whenever it is asked, and stays where it is. -/
def Settled (reader : Reader) (last : Item) : Prop :=
  ask reader = (last, reader) ∧ isLast last = true

namespace Settled

variable {reader : Reader} {last : Item}

theorem askTimes_eq (settled : Settled reader last) (calls : Nat) :
    askTimes reader calls = List.replicate calls last := by
  induction calls with
  | zero => rfl
  | succ calls ih => rw [askTimes, settled.1, ih, List.replicate_succ]

theorem afterAsks_eq (settled : Settled reader last) (calls : Nat) :
    afterAsks reader calls = reader := by
  induction calls with
  | zero => rfl
  | succ calls ih => rw [afterAsks, settled.1, ih]

end Settled

theorem settled_at_end {reader : Reader} (ahead : reader.ahead = []) :
    Settled reader (.ok (endOfFile reader.position)) := by
  obtain ⟨passed, remaining, position⟩ := reader
  cases ahead
  exact ⟨ask_at_end (List.forall_mem_nil _) rfl, rfl⟩

theorem Foreign.settled {character : Char} (foreign : Foreign character) {reader : Reader}
    {rest : List Char} (ahead : reader.ahead = character :: rest) :
    Settled reader (.error ⟨character, reader.position⟩) := by
  obtain ⟨passed, remaining, position⟩ := reader
  cases ahead
  exact ⟨foreign.ask_eq (List.forall_mem_nil _) rfl, rfl⟩

/-! ## Any number of calls -/

theorem nextTimes_finished (reader : Reader) (calls : Nat) :
    Iterator.nextTimes ⟨reader, true⟩ calls = List.replicate calls none := by
  induction calls with
  | zero => rfl
  | succ calls ih => rw [Iterator.nextTimes, List.replicate_succ, ← ih]; rfl

theorem nextTimes_succ (reader : Reader) (calls : Nat) :
    Iterator.nextTimes ⟨reader, false⟩ (calls + 1) =
      some (ask reader).1 :: Iterator.nextTimes ⟨(ask reader).2, isLast (ask reader).1⟩ calls :=
  rfl

/-- What comes of asking a reader in front of a text again and again. -/
structure Pulls (reader resting : Reader) (words : List Token) (last : Item) : Prop where
  asked : ∀ calls, askTimes reader calls = repeating (words.map .ok) last calls
  stays : ∀ calls, afterAsks reader (words.length + 1 + calls) = resting
  iterated : ∀ calls, Iterator.nextTimes ⟨reader, false⟩ calls =
    repeating (words.map (some ∘ .ok) ++ [some last]) none calls

theorem Pulls.single {reader resting : Reader} {last : Item} (asked : ask reader = (last, resting))
    (stays : Settled resting last) : Pulls reader resting [] last where
  asked := by
    intro calls
    cases calls with
    | zero => rfl
    | succ calls => simp [askTimes, asked, stays.askTimes_eq, List.replicate_succ]
  stays := by
    intro calls
    rw [List.length_nil, Nat.add_right_comm, afterAsks, asked, stays.afterAsks_eq]
  iterated := by
    intro calls
    cases calls with
    | zero => rfl
    | succ calls => simp [nextTimes_succ, asked, stays.2, nextTimes_finished]

theorem Pulls.cons {reader after resting : Reader} {word : Token} {words : List Token} {last : Item}
    (asked : ask reader = (.ok word, after)) (proper : word.kind ≠ .endOfFile)
    (later : Pulls after resting words last) : Pulls reader resting (word :: words) last where
  asked := by
    intro calls
    cases calls with
    | zero => exact (repeating_zero _ _).symm
    | succ calls => simp [askTimes, asked, later.asked]
  stays := by
    intro calls
    rw [List.length_cons, Nat.add_right_comm, afterAsks, asked]
    exact later.stays calls
  iterated := by
    intro calls
    cases calls with
    | zero => exact (repeating_zero _ _).symm
    | succ calls => simp [nextTimes_succ, asked, isLast, proper, later.iterated]

/-- What there is to read is what a reader is asked for. -/
theorem Yields.pulls {place : Position} {front back : List Char} {words : List Token} {last : Item}
    (yields : Yields place front back words last) {reader : Reader}
    (standing : reader.position = place) (ahead : reader.ahead = front ++ back) :
    Pulls reader (reader.pass front back) words last := by
  induction yields generalizing reader with
  | stop blank =>
      subst standing
      rw [List.append_nil] at ahead
      exact .single (ask_at_end blank ahead) (settled_at_end rfl)
  | foreign blank foreign =>
      subst standing
      exact .single (foreign.ask_eq blank ahead) (foreign.settled rfl)
  | @token place gap run front back kind words last blank found _ ih =>
      subst standing
      rw [List.append_assoc, List.append_assoc] at ahead
      have later := @ih (reader.pass (gap ++ run) (front ++ back)) rfl rfl
      rw [pass_pass, List.append_assoc] at later
      exact .cons (found.ask_eq blank ahead) found.kind_ne later

/-- What scanning gives is what asking a reader and pulling an iterator give, call by call. Behind the
last token its end is given again by the one and nothing by the other. In front of a foreign character
there are the tokens of the text up to it, and then it is given again by the one, which stays in front
of it, and once by the other. -/
theorem scan_agrees_with_calls (source : String) :
    match scan source with
    | .ok tokens => ∃ words last, tokens = words ++ [last] ∧ last = endOfFile (behind source.toList) ∧
        (∀ word ∈ words, word.kind ≠ .endOfFile) ∧ ∀ calls,
          askTimes (Reader.ofString source) calls = repeating (tokens.map .ok) (.ok last) calls ∧
          (Iterator.ofReader (Reader.ofString source)).nextTimes calls =
            repeating (tokens.map (some ∘ .ok)) none calls
    | .error error => ∃ before after words,
        source.toList = before ++ error.character :: after ∧ error.position = behind before ∧
        scan (String.ofList before) = .ok (words ++ [endOfFile error.position]) ∧
        (∀ word ∈ words, word.kind ≠ .endOfFile) ∧ ∀ calls,
          askTimes (Reader.ofString source) calls = repeating (words.map .ok) (.error error) calls ∧
          afterAsks (Reader.ofString source) (words.length + 1 + calls) =
            ⟨before.reverse, error.character :: after, error.position⟩ ∧
          (Iterator.ofReader (Reader.ofString source)).nextTimes calls =
            repeating (words.map (some ∘ .ok) ++ [some (.error error)]) none calls := by
  obtain ⟨front, back, words, last, split, yields⟩ := exists_yields start source.toList
  have scanned : scan source = last.map fun ending => words ++ [ending] :=
    yields.scanFrom_eq rfl split
  have pulls : Pulls (Reader.ofString source) _ words last := yields.pulls rfl split
  have proper : ∀ word ∈ words, word.kind ≠ .endOfFile := by
    simpa using yields.splits.proper_of_mem_dropLast
  rw [scanned]
  cases last with
  | ok ending =>
      obtain ⟨rfl, rfl⟩ := yields.ok_iff
      rw [start_advance, ← List.append_nil front, ← split] at pulls ⊢
      refine ⟨words, _, rfl, rfl, proper, fun calls => ⟨?_, ?_⟩⟩
      · rw [pulls.asked, List.map_append]
        exact (repeating_concat _ _ _).symm
      · rw [List.map_append]
        exact pulls.iterated calls
  | error error =>
      obtain ⟨rest, rfl, position, foreign⟩ := yields.exists_foreign
      rw [start_advance] at position
      refine ⟨front, rest, words, split, position, ?_, proper,
        fun calls => ⟨pulls.asked calls, ?_, pulls.iterated calls⟩⟩
      · rw [scan_eq_ok_iff, String.toList_ofList, position, ← start_advance]
        exact yields.splits
      · rw [pulls.stays, Reader.pass, position, ← start_advance]
        simp [Reader.ofString]

end CalcScript.Token
