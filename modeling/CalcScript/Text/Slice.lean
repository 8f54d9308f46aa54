/-!
# Slices by byte offset

A text is cut at byte offsets of its UTF-8 form. A cut is refused when its offset lies past the end
of the text or between the bytes of one character.
-/

set_option autoImplicit false

namespace CalcScript.Text

/-- Removes exactly the given number of bytes from the front of a text. -/
def dropBytes? : List Char → Nat → Option (List Char)
  | characters, 0 => some characters
  | [], _ + 1 => none
  | character :: rest, bytes =>
    if character.utf8Size ≤ bytes then dropBytes? rest (bytes - character.utf8Size) else none

/-- Keeps exactly the given number of bytes from the front of a text. -/
def takeBytes? : List Char → Nat → Option (List Char)
  | _, 0 => some []
  | [], _ + 1 => none
  | character :: rest, bytes =>
    if character.utf8Size ≤ bytes then
      (takeBytes? rest (bytes - character.utf8Size)).map (character :: ·)
    else none

/-- The part of a text between two byte offsets, if they are in order and both are places of it. -/
def slice? (characters : List Char) (start stop : Nat) : Option (List Char) :=
  if start ≤ stop then (dropBytes? characters start).bind (takeBytes? · (stop - start)) else none

end CalcScript.Text
