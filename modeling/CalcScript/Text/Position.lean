/-!
# Positions

A position is a place between two characters of a text. It is recorded three ways at once: the
number of bytes before it in the UTF-8 form of the text, the line it is on and the column within
that line. Lines and columns are counted from one, only a line feed starts a new line, and a column
is one character wide whatever its length in bytes.
-/

set_option autoImplicit false

namespace CalcScript

structure Position where
  /-- Bytes of the text before this place. -/
  offset : Nat
  line : Nat
  column : Nat
deriving DecidableEq, Repr

namespace Position

def start : Position := ⟨0, 1, 1⟩

/-- The place of a node that was not read from any text. -/
def unplaced : Position := ⟨0, 0, 0⟩

/-- The place after a character that stands at this place. -/
def after (place : Position) (character : Char) : Position :=
  if character = '\n' then ⟨place.offset + character.utf8Size, place.line + 1, 1⟩
  else ⟨place.offset + character.utf8Size, place.line, place.column + 1⟩

/-- The place after a run of characters that stands at this place. -/
def advance (place : Position) (characters : List Char) : Position :=
  characters.foldl after place

@[simp]
theorem advance_nil (place : Position) : place.advance [] = place := rfl

@[simp]
theorem advance_cons (place : Position) (character : Char) (characters : List Char) :
    place.advance (character :: characters) = (place.after character).advance characters := rfl

theorem advance_append (place : Position) (first second : List Char) :
    place.advance (first ++ second) = (place.advance first).advance second := by
  simp [advance, List.foldl_append]

/-- Positions are ordered by offset, then by line, then by column. -/
instance : Ord Position where
  compare left right :=
    (compare left.offset right.offset).then
      ((compare left.line right.line).then (compare left.column right.column))

def earlier (left right : Position) : Position :=
  if (compare left right).isLE then left else right

def later (left right : Position) : Position :=
  if (compare left right).isLE then right else left

def shown (place : Position) : String :=
  toString place.line ++ ":" ++ toString place.column

end Position

end CalcScript
