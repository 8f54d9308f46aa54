import CalcScript.Text.Position
import CalcScript.Text.Slice

/-!
# Readers

A reader walks over a text one character at a time and keeps the position it has reached. It holds
what it has passed and what is still ahead, so nothing of the text is ever lost.
-/

set_option autoImplicit false

namespace CalcScript

/-- A place in a text together with the text on both sides of it. -/
structure Reader where
  /-- Characters already passed, the latest first. -/
  passed : List Char
  ahead : List Char
  position : Position
deriving DecidableEq, Repr

namespace Reader

def ofString (source : String) : Reader := ⟨[], source.toList, Position.start⟩

/-- The next character, which stays ahead. -/
def peek? (reader : Reader) : Option Char := reader.ahead.head?

/-- Passes a run of characters known to be ahead. -/
def pass (reader : Reader) (run rest : List Char) : Reader :=
  ⟨run.reverse ++ reader.passed, rest, reader.position.advance run⟩

/-- Passes the next character. At the end of the text there is none and the reader stays. -/
def take (reader : Reader) : Option Char × Reader :=
  match reader.ahead with
  | [] => (none, reader)
  | character :: rest => (some character, reader.pass [character] rest)

/-- Passes the longest run of characters that are all accepted. -/
def takeWhile (reader : Reader) (accepts : Char → Bool) : Reader :=
  reader.pass (reader.ahead.takeWhile accepts) (reader.ahead.dropWhile accepts)

/-- The text passed since a byte offset, if that offset is a place already reached. -/
def textSince? (reader : Reader) (offset : Nat) : Option String :=
  (Text.slice? reader.passed.reverse offset reader.position.offset).map String.ofList

theorem ahead_takeWhile_length_le (reader : Reader) (accepts : Char → Bool) :
    (reader.takeWhile accepts).ahead.length ≤ reader.ahead.length :=
  (List.dropWhile_suffix accepts).length_le

/-- Passing a run that starts with an accepted character leaves less ahead. -/
theorem ahead_takeWhile_length_lt {reader : Reader} {accepts : Char → Bool} {character : Char}
    {rest : List Char} (ahead : reader.ahead = character :: rest)
    (accepted : accepts character = true) :
    (reader.takeWhile accepts).ahead.length < reader.ahead.length := by
  have shorter := (List.dropWhile_suffix (l := rest) accepts).length_le
  simp only [takeWhile, pass, ahead, List.dropWhile_cons, accepted, if_true, List.length_cons]
  omega

end Reader

end CalcScript
