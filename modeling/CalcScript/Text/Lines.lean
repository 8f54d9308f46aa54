/-!
# Lines

A line feed ends a line. One carriage return directly before that line feed belongs to the line
ending as well; every other carriage return is a character of its line. Nothing after the final
line feed is no line.
-/

set_option autoImplicit false

namespace CalcScript.Text

/-- Removes one carriage return from the end of a line. -/
def withoutCarriageReturn (line : List Char) : List Char :=
  if line.getLast? = some '\r' then line.dropLast else line

/-- The lines of a text, where `current` holds the characters of an unfinished first line, the
latest first. -/
def linesFrom (current : List Char) : List Char → List (List Char)
  | [] => if current.isEmpty then [] else [current.reverse]
  | character :: rest =>
    if character = '\n' then withoutCarriageReturn current.reverse :: linesFrom [] rest
    else linesFrom (character :: current) rest

def lines (characters : List Char) : List (List Char) := linesFrom [] characters

/-- A numbered line of a text, counted from one. A line that the text does not have is empty, and
the number zero stands for the first line too. -/
def line (source : String) (number : Nat) : List Char :=
  ((lines source.toList)[number - 1]?).getD []

end CalcScript.Text
