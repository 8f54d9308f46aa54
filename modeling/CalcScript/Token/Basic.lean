import CalcScript.Text.Span

/-!
# Tokens

A token is a word of the language: what kind of word it is, how it is written and where it stands.
The end of the text is a token of its own, so there always is a next token.
-/

set_option autoImplicit false

namespace CalcScript

inductive TokenKind where
  | number
  | identifier
  | letKeyword
  | constKeyword
  | operator
  | equals
  | semicolon
  | openParen
  | closeParen
  | endOfFile
deriving DecidableEq, Repr

namespace TokenKind

def keyword? (text : String) : Option TokenKind :=
  if text = "let" then some letKeyword
  else if text = "const" then some constKeyword
  else none

def description : TokenKind → String
  | number => "number"
  | identifier => "identifier"
  | letKeyword => "`let`"
  | constKeyword => "`const`"
  | operator => "binary operator"
  | equals => "`=`"
  | semicolon => "`;`"
  | openParen => "`(`"
  | closeParen => "`)`"
  | endOfFile => "end of file"

end TokenKind

structure Token where
  kind : TokenKind
  text : String
  span : Span
deriving DecidableEq, Repr

namespace Token

def endOfFile (place : Position) : Token := ⟨.endOfFile, "EndOfFile", Span.point place⟩

/-- What a token is called in messages. Words of a kind that can be written in several ways are
quoted. -/
def description (token : Token) : String :=
  match token.kind with
  | .number | .identifier | .operator => token.kind.description ++ " `" ++ token.text ++ "`"
  | kind => kind.description

end Token

end CalcScript
