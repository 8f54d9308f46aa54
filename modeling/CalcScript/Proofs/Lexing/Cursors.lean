import CalcScript.Proofs.Layout.Joins
import CalcScript.Proofs.Lexing.Slices
import CalcScript.Text.Cursor

/-!
# Calls to a reader

A reader is asked for the next character, looked at, or told to pass a run, in any order and also
after the end of the text. Whatever it was told, what it has passed and what is ahead make up the
text, and its position is the place behind what it has passed. A cursor that forgets what it passed,
takes offsets from the characters to come and goes through runs one character at a time answers every
call alike and stands at the same place.
-/

set_option autoImplicit false

namespace CalcScript

open Position (behind)
open Text (byteLength)

inductive ReaderCall where
  | take
  | peek
  | takeWhile (accepts : Char → Bool)

namespace Reader

/-- What is answered to a call, and the reader after it. -/
def perform (reader : Reader) : ReaderCall → Option Char × Reader
  | .take => reader.take
  | .peek => (reader.peek?, reader)
  | .takeWhile accepts => (none, reader.takeWhile accepts)

def afterCalls (reader : Reader) (calls : List ReaderCall) : Reader :=
  calls.foldl (fun reader call => (reader.perform call).2) reader

/-- What comes of the next call, by what is ahead. -/
structure GoesOn (reader : Reader) : Prop where
  taken : ∀ character rest, reader.ahead = character :: rest →
    reader.perform .take = (some character, reader.pass [character] rest)
  ended : reader.ahead = [] → reader.perform .take = (none, reader)
  shown : reader.perform .peek = (reader.ahead.head?, reader)
  longest : ∀ accepts, ∃ run rest, reader.ahead = run ++ rest ∧
    reader.perform (.takeWhile accepts) = (none, reader.pass run rest) ∧
    (∀ character ∈ run, accepts character = true) ∧
    ∀ front, front <+: reader.ahead → (∀ character ∈ front, accepts character = true) →
      front <+: run

variable {reader : Reader} {source : String}

theorem goesOn (reader : Reader) : reader.GoesOn where
  taken := by
    intro character rest ahead
    simp only [perform, take, ahead]
  ended := by
    intro ahead
    simp only [perform, take, ahead]
  shown := rfl
  longest := by
    intro accepts
    have accepted := (Token.longest_takeWhile accepts reader.ahead).accepted
    refine ⟨_, _, List.takeWhile_append_dropWhile.symm, rfl, accepted, ?_⟩
    rintro front ⟨back, split⟩ all
    have whole : (front ++ back).takeWhile accepts = front ++ back.takeWhile accepts :=
      List.takeWhile_append_of_pos all
    exact ⟨back.takeWhile accepts, by rw [← whole, split]⟩

theorem WalksOver.perform (walks : reader.WalksOver source) (call : ReaderCall) :
    (reader.perform call).2.WalksOver source := by
  cases call with
  | peek => exact walks
  | takeWhile accepts => exact walks.takeWhile accepts
  | take =>
      cases ahead : reader.ahead with
      | nil => simpa only [reader.goesOn.ended ahead] using walks
      | cons character rest =>
          have split : reader.ahead = [character] ++ rest := ahead
          simpa only [reader.goesOn.taken character rest ahead] using walks.pass split

theorem takeWhile_of_accepted {accepts : Char → Bool} {character : Char} {rest : List Char}
    (ahead : reader.ahead = character :: rest) (accepted : accepts character = true) :
    reader.takeWhile accepts = (reader.pass [character] rest).takeWhile accepts := by
  simp only [takeWhile, pass, ahead, List.takeWhile_cons_of_pos accepted,
    List.dropWhile_cons_of_pos accepted, List.reverse_cons, List.reverse_nil, List.nil_append,
    List.append_assoc, List.singleton_append, Position.advance_cons, Position.advance_nil]

theorem takeWhile_of_stopped {accepts : Char → Bool}
    (stops : ∀ character ∈ reader.ahead.head?, accepts character = false) :
    reader.takeWhile accepts = reader := by
  have longest : Token.Longest accepts [] reader.ahead := ⟨nofun, stops⟩
  exact longest.takeWhile_reader rfl

end Reader

/-! ## Cutting out -/

namespace Text

/-- A byte offset that does not lie inside a character. -/
def Divides (characters : List Char) (offset : Nat) : Prop :=
  ∃ front back, characters = front ++ back ∧ offset = byteLength front

theorem exists_of_dropBytes? {characters rest : List Char} {bytes : Nat}
    (dropped : dropBytes? characters bytes = some rest) :
    ∃ front, characters = front ++ rest ∧ bytes = byteLength front := by
  fun_induction dropBytes? characters bytes with
  | case1 =>
      cases dropped
      exact ⟨[], rfl, rfl⟩
  | case2 => cases dropped
  | case3 character later bytes positive fits ih =>
      obtain ⟨front, rfl, size⟩ := ih dropped
      refine ⟨character :: front, rfl, ?_⟩
      rw [byteLength_cons]
      omega
  | case4 => cases dropped

end Text

namespace Reader.WalksOver

variable {reader : Reader} {source : String}

theorem textSince?_of_passed (walks : reader.WalksOver source) {front middle : List Char}
    (passed : reader.passed.reverse = front ++ middle) :
    reader.textSince? (byteLength front) = some (String.ofList middle) := by
  have cut := Text.slice?_append front middle []
  rw [List.append_nil] at cut
  simp only [textSince?, walks.place, passed, behind, cut, Option.map_some]

theorem isSome_textSince?_iff (walks : reader.WalksOver source) (offset : Nat) :
    (reader.textSince? offset).isSome = true ↔
      offset ≤ reader.position.offset ∧ Text.Divides source.toList offset := by
  constructor
  · intro given
    simp only [textSince?, Text.slice?, Option.isSome_map] at given
    split at given
    case isFalse => cases given
    case isTrue ordered =>
      cases dropped : Text.dropBytes? reader.passed.reverse offset with
      | none => simp [dropped] at given
      | some rest =>
          obtain ⟨front, passed, size⟩ := Text.exists_of_dropBytes? dropped
          refine ⟨ordered, front, rest ++ reader.ahead, ?_, size⟩
          rw [walks.text, passed, List.append_assoc]
  · rintro ⟨ordered, front, back, split, rfl⟩
    have isFront : front <+: source.toList := ⟨back, split.symm⟩
    have isPassed : reader.passed.reverse <+: source.toList := ⟨reader.ahead, walks.text.symm⟩
    rw [walks.place] at ordered
    obtain ⟨middle, passed⟩ := Position.prefix_of_offset_le isFront isPassed ordered
    rw [walks.textSince?_of_passed passed.symm]
    rfl

end Reader.WalksOver

/-! ## A cursor in place of the reader -/

namespace Cursor

def perform (cursor : Cursor) : ReaderCall → Option Char × Cursor
  | .take => cursor.take
  | .peek => (cursor.peek?, cursor)
  | .takeWhile accepts => (none, cursor.takeWhile accepts)

def afterCalls (cursor : Cursor) (calls : List ReaderCall) : Cursor :=
  calls.foldl (fun cursor call => (cursor.perform call).2) cursor

/-- A cursor on the same text as a reader, at the same place. -/
structure Shows (cursor : Cursor) (source : String) (reader : Reader) : Prop where
  source : cursor.source = source
  upcoming : cursor.upcoming = withOffsets reader.position.offset reader.ahead
  position : cursor.position = reader.position

theorem offset_withOffsets {offset length : Nat} {characters : List Char}
    (ends : characters = [] → length = offset) :
    ((withOffsets offset characters).head?.map (·.1)).getD length = offset := by
  cases characters with
  | nil => exact ends rfl
  | cons => rfl

namespace Shows

variable {cursor : Cursor} {source : String} {reader : Reader}

theorem ofString (source : String) : (Cursor.ofString source).Shows source (.ofString source) :=
  ⟨rfl, rfl, rfl⟩

theorem peek?_eq (shows : cursor.Shows source reader) : cursor.peek? = reader.peek? := by
  rw [peek?, shows.upcoming, Reader.peek?]
  cases reader.ahead <;> rfl

/-- The offset of the character behind another is where that one ends, and at the end of the text
it is the length of the text. -/
theorem nextOffset_eq (walks : reader.WalksOver source) {character : Char} {rest : List Char}
    (ahead : reader.ahead = character :: rest) :
    ((withOffsets (reader.position.offset + character.utf8Size) rest).head?.map (·.1)).getD
      source.utf8ByteSize = reader.position.offset + character.utf8Size := by
  apply offset_withOffsets
  rintro rfl
  have whole : source.utf8ByteSize = byteLength source.toList := by
    rw [byteLength, String.ofList_toList]
  simp only [whole, walks.text, ahead, walks.place, behind, Text.byteLength_append,
    Text.byteLength_cons, Text.byteLength_nil, Nat.add_zero]

theorem take (shows : cursor.Shows source reader) (walks : reader.WalksOver source)
    {character : Char} {rest : List Char} (ahead : reader.ahead = character :: rest) :
    cursor.take.1 = some character ∧ cursor.take.2.Shows source (reader.pass [character] rest) := by
  have upcoming := shows.upcoming
  rw [ahead, withOffsets] at upcoming
  have next := nextOffset_eq walks ahead
  have place : (reader.pass [character] rest).position = reader.position.after character := rfl
  simp only [Cursor.take, upcoming, shows.source, shows.position, next]
  refine ⟨trivial, rfl, ?_, ?_⟩
  · rw [place, Position.after]
    split <;> rfl
  · rw [place, Position.after]

theorem take_at_end (shows : cursor.Shows source reader) (ended : reader.ahead = []) :
    cursor.take = (none, cursor) := by
  have upcoming := shows.upcoming
  rw [ended, withOffsets] at upcoming
  simp only [Cursor.take, upcoming]

/-- The run is the same, whether it is passed at once or by looking at each character of it. -/
theorem takeWhile (shows : cursor.Shows source reader) (walks : reader.WalksOver source)
    (accepts : Char → Bool) :
    (cursor.takeWhile accepts).Shows source (reader.takeWhile accepts) := by
  fun_induction Cursor.takeWhile accepts cursor generalizing reader with
  | case1 cursor ended =>
      rw [shows.peek?_eq, Reader.peek?] at ended
      rwa [Reader.takeWhile_of_stopped (by simp [ended])]
  | case2 cursor character coming accepted _ ih =>
      rw [shows.peek?_eq, Reader.peek?] at coming
      obtain ⟨rest, ahead⟩ := List.head?_eq_some_iff.mp coming
      have split : reader.ahead = [character] ++ rest := ahead
      rw [Reader.takeWhile_of_accepted ahead accepted]
      exact ih (shows.take walks ahead).2 (walks.pass split)
  | case3 cursor character coming refused =>
      rw [shows.peek?_eq, Reader.peek?] at coming
      rwa [Reader.takeWhile_of_stopped (by simpa [coming] using refused)]

theorem perform (shows : cursor.Shows source reader) (walks : reader.WalksOver source)
    (call : ReaderCall) :
    (cursor.perform call).1 = (reader.perform call).1 ∧
      (cursor.perform call).2.Shows source (reader.perform call).2 := by
  cases call with
  | peek => exact ⟨shows.peek?_eq, shows⟩
  | takeWhile accepts => exact ⟨rfl, shows.takeWhile walks accepts⟩
  | take =>
      cases ahead : reader.ahead with
      | nil =>
          rw [reader.goesOn.ended ahead]
          change cursor.take.1 = none ∧ cursor.take.2.Shows source reader
          rw [shows.take_at_end ahead]
          exact ⟨rfl, shows⟩
      | cons character rest =>
          rw [reader.goesOn.taken character rest ahead]
          exact shows.take walks ahead

theorem afterCalls (shows : cursor.Shows source reader) (walks : reader.WalksOver source)
    (calls : List ReaderCall) :
    (cursor.afterCalls calls).Shows source (reader.afterCalls calls) ∧
      (reader.afterCalls calls).WalksOver source := by
  induction calls generalizing cursor reader with
  | nil => exact ⟨shows, walks⟩
  | cons call later ih => exact ih (shows.perform walks call).2 (walks.perform call)

theorem textSince?_eq (shows : cursor.Shows source reader) (walks : reader.WalksOver source)
    (offset : Nat) : cursor.textSince? offset = reader.textSince? offset := by
  rw [walks.textSince?_eq, textSince?, shows.source, shows.position]

end Shows

end Cursor

/-- After any calls the state is told by what was passed: the place is the one behind it, the next
call goes on with the rest of the text, and what was passed can be cut out from every place of it.
A cursor shows the same place and gives the same answers. -/
theorem Reader.follows_text (source : String) (calls : List ReaderCall) :
    let reader := (Reader.ofString source).afterCalls calls
    let cursor := (Cursor.ofString source).afterCalls calls
    source.toList = reader.passed.reverse ++ reader.ahead ∧
      reader.position = behind reader.passed.reverse ∧ reader.GoesOn ∧
      (∀ offset, (reader.textSince? offset).isSome = true ↔
        offset ≤ reader.position.offset ∧ Text.Divides source.toList offset) ∧
      (∀ front middle, reader.passed.reverse = front ++ middle →
        reader.textSince? (byteLength front) = some (String.ofList middle)) ∧
      cursor.Shows source reader ∧
      (∀ call, (cursor.perform call).1 = (reader.perform call).1) ∧
      ∀ offset, cursor.textSince? offset = reader.textSince? offset := by
  obtain ⟨shows, walks⟩ :=
    (Cursor.Shows.ofString source).afterCalls (Reader.WalksOver.ofString source) calls
  exact ⟨walks.text, walks.place, Reader.goesOn _, walks.isSome_textSince?_iff,
    fun front middle passed => walks.textSince?_of_passed passed, shows,
    fun call => (shows.perform walks call).1, shows.textSince?_eq walks⟩

/-- A wide character is one column and several bytes, between which nothing can be cut out. -/
example :
    let reader := (Reader.ofString "é\nb").afterCalls [.take, .takeWhile (· = '\n'), .peek]
    reader.position = ⟨3, 2, 1⟩ ∧ reader.textSince? 2 = some "\n" ∧
      reader.textSince? 1 = none := by
  decide +kernel

end CalcScript
