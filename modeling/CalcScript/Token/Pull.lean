import CalcScript.Token.Lexer

/-!
# Tokens one at a time

Tokens can be asked for one by one. A reader that is asked again after the end of the text gives the
end again, and one that is asked again at a foreign character reports it again. An iterator over
the tokens gives the end of the text or the foreign character once, and nothing afterwards.
-/

set_option autoImplicit false

namespace CalcScript.Token

/-- What is given for one token: the token, or the foreign character in its place. -/
abbrev Item := Except ForeignCharacter Token

/-- Asks a reader for one token. In front of a foreign character the reader passes the blanks before
it and nothing else. -/
def ask (reader : Reader) : Item × Reader :=
  match next reader with
  | .ok (token, after) => (.ok token, after)
  | .error error => (.error error, reader.takeWhile isBlank)

def askTimes (reader : Reader) : Nat → List Item
  | 0 => []
  | times + 1 => (ask reader).1 :: askTimes (ask reader).2 times

/-- Tells whether nothing follows an item. -/
def isLast : Item → Bool
  | .ok token => token.kind = .endOfFile
  | .error _ => true

/-- A reader whose tokens end with the last item. -/
structure Iterator where
  reader : Reader
  /-- Whether the last item has been given. -/
  finished : Bool

def Iterator.ofReader (reader : Reader) : Iterator := ⟨reader, false⟩

/-- The next item, if the last has not been given yet. -/
def Iterator.next? (iterator : Iterator) : Option Item × Iterator :=
  if iterator.finished then (none, iterator)
  else
    let (item, reader) := ask iterator.reader
    (some item, ⟨reader, isLast item⟩)

def Iterator.nextTimes (iterator : Iterator) : Nat → List (Option Item)
  | 0 => []
  | times + 1 => iterator.next?.1 :: iterator.next?.2.nextTimes times

end CalcScript.Token
