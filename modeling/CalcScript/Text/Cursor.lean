import CalcScript.Text.Position
import CalcScript.Text.Slice

/-!
# Cursors

A cursor walks over the characters of a text, each with the byte offset where it starts, and keeps
the text itself whole. It forgets what it has passed. The offset of its position is that of the next
character, or at the end the length of the text, while its line and column are counted. A run is
passed one character at a time, with a look at each before it is taken.
-/

set_option autoImplicit false

namespace CalcScript

structure Cursor where
  source : String
  /-- The characters not taken yet. -/
  upcoming : List (Nat × Char)
  position : Position
deriving DecidableEq, Repr

namespace Cursor

/-- Characters with the offsets where they start, from the offset of the first. -/
def withOffsets (offset : Nat) : List Char → List (Nat × Char)
  | [] => []
  | character :: rest => (offset, character) :: withOffsets (offset + character.utf8Size) rest

def ofString (source : String) : Cursor :=
  ⟨source, withOffsets 0 source.toList, Position.start⟩

def peek? (cursor : Cursor) : Option Char := cursor.upcoming.head?.map (·.2)

def take (cursor : Cursor) : Option Char × Cursor :=
  match cursor.upcoming with
  | [] => (none, cursor)
  | (_, character) :: rest =>
    let offset := (rest.head?.map (·.1)).getD cursor.source.utf8ByteSize
    let position : Position :=
      if character = '\n' then ⟨offset, cursor.position.line + 1, 1⟩
      else ⟨offset, cursor.position.line, cursor.position.column + 1⟩
    (some character, ⟨cursor.source, rest, position⟩)

theorem take_shortens {cursor : Cursor} {character : Char}
    (coming : cursor.peek? = some character) :
    cursor.take.2.upcoming.length < cursor.upcoming.length := by
  cases upcoming : cursor.upcoming with
  | nil => simp [peek?, upcoming] at coming
  | cons next rest => simp [take, upcoming]

def takeWhile (accepts : Char → Bool) (cursor : Cursor) : Cursor :=
  match coming : cursor.peek? with
  | none => cursor
  | some character =>
    if accepts character then
      have _shorter := take_shortens coming
      takeWhile accepts cursor.take.2
    else cursor
termination_by cursor.upcoming.length

/-- The text from a byte offset up to the cursor. -/
def textSince? (cursor : Cursor) (offset : Nat) : Option String :=
  (Text.slice? cursor.source.toList offset cursor.position.offset).map String.ofList

end Cursor

end CalcScript
