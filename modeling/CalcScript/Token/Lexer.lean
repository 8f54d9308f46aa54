import CalcScript.Number.Numeral
import CalcScript.Text.Cased
import CalcScript.Text.Reader
import CalcScript.Token.Basic

/-!
# Splitting a text into tokens

Blanks stand between tokens and belong to none. Nine symbols are tokens by themselves. A run of
digits is a number and a run of cased characters is a keyword or an identifier; both are as long as
possible. Every other character is foreign to the language. A foreign character is reported where
it stands, and the reader never passes it.
-/

set_option autoImplicit false

namespace CalcScript

/-- A character that no token begins with, and its place. -/
structure ForeignCharacter where
  character : Char
  position : Position
deriving DecidableEq, Repr

/-- The span of a foreign character is one column wide. -/
def ForeignCharacter.span (foreign : ForeignCharacter) : Span :=
  ⟨foreign.position,
    ⟨foreign.position.offset + foreign.character.utf8Size, foreign.position.line,
      foreign.position.column + 1⟩⟩

namespace Token

def isBlank (character : Char) : Bool :=
  character = ' ' || character = '\t' || character = '\n' || character = '\r'

def symbolKind? (character : Char) : Option TokenKind :=
  match character with
  | '(' => some .openParen
  | ')' => some .closeParen
  | '+' | '-' | '*' | '/' | '%' => some .operator
  | '=' => some .equals
  | ';' => some .semicolon
  | _ => none

/-- The token of a run of characters that has just been passed, from `before` up to `after`. -/
def lexeme (kind : TokenKind) (run : List Char) (before after : Reader) : Token :=
  ⟨kind, String.ofList run, before.position, after.position⟩

def wordKind (run : List Char) : TokenKind :=
  (TokenKind.keyword? (String.ofList run)).getD .identifier

/-- The next token, read by a reader that stands before no blank. At the end of the text there is
none but the end itself. -/
def lexemeAt (reader : Reader) : Except ForeignCharacter (Token × Reader) :=
  match reader.ahead with
  | [] => .ok (endOfFile reader.position, reader)
  | character :: rest =>
    match symbolKind? character with
    | some kind =>
      let next := reader.pass [character] rest
      .ok (lexeme kind [character] reader next, next)
    | none =>
      if Number.isDigit character then
        let next := reader.takeWhile Number.isDigit
        .ok (lexeme .number (reader.ahead.takeWhile Number.isDigit) reader next, next)
      else if Text.isCased character then
        let run := reader.ahead.takeWhile Text.isCased
        let next := reader.takeWhile Text.isCased
        .ok (lexeme (wordKind run) run reader next, next)
      else .error ⟨character, reader.position⟩

def next (reader : Reader) : Except ForeignCharacter (Token × Reader) :=
  lexemeAt (reader.takeWhile isBlank)

theorem symbolKind?_ne_endOfFile {character : Char} {kind : TokenKind}
    (symbol : symbolKind? character = some kind) : kind ≠ .endOfFile := by
  rintro rfl
  unfold symbolKind? at symbol
  split at symbol <;> simp_all

theorem wordKind_ne_endOfFile (run : List Char) : wordKind run ≠ .endOfFile := by
  unfold wordKind TokenKind.keyword?
  split
  · simp
  · split <;> simp

/-- A token other than the end leaves less of the text ahead. -/
theorem lexemeAt_shortens {reader after : Reader} {token : Token}
    (read : lexemeAt reader = .ok (token, after)) (proper : token.kind ≠ .endOfFile) :
    after.ahead.length < reader.ahead.length := by
  unfold lexemeAt at read
  split at read
  case h_1 =>
    cases read
    exact absurd rfl proper
  case h_2 character rest ahead =>
    split at read
    case h_1 =>
      cases read
      simp [Reader.pass, ahead]
    case h_2 =>
      split at read
      case isTrue digit =>
        cases read
        exact Reader.ahead_takeWhile_length_lt ahead digit
      case isFalse =>
        split at read
        case isTrue cased =>
          cases read
          exact Reader.ahead_takeWhile_length_lt ahead cased
        case isFalse => cases read

theorem next_shortens {reader after : Reader} {token : Token}
    (read : next reader = .ok (token, after)) (proper : token.kind ≠ .endOfFile) :
    after.ahead.length < reader.ahead.length :=
  Nat.lt_of_lt_of_le (lexemeAt_shortens read proper) (reader.ahead_takeWhile_length_le isBlank)

/-- All tokens still ahead, the end of the text last. -/
def scanFrom (reader : Reader) : Except ForeignCharacter (List Token) :=
  match read : next reader with
  | .error error => .error error
  | .ok (token, after) =>
    if proper : token.kind = .endOfFile then .ok [token]
    else
      have _shorter := next_shortens read proper
      (scanFrom after).map (token :: ·)
termination_by reader.ahead.length

theorem scanFrom_of_end {reader after : Reader} {token : Token}
    (read : next reader = .ok (token, after)) (ended : token.kind = .endOfFile) :
    scanFrom reader = .ok [token] := by
  rw [scanFrom]
  split
  case h_1 failed => cases failed.symm.trans read
  case h_2 same =>
    cases same.symm.trans read
    rw [dif_pos ended]

theorem scanFrom_of_token {reader after : Reader} {token : Token}
    (read : next reader = .ok (token, after)) (proper : token.kind ≠ .endOfFile) :
    scanFrom reader = (scanFrom after).map (token :: ·) := by
  rw [scanFrom]
  split
  case h_1 failed => cases failed.symm.trans read
  case h_2 same =>
    cases same.symm.trans read
    rw [dif_neg proper]

theorem scanFrom_of_error {reader : Reader} {error : ForeignCharacter}
    (failed : next reader = .error error) : scanFrom reader = .error error := by
  rw [scanFrom]
  split
  case h_1 same =>
    cases same.symm.trans failed
    rfl
  case h_2 read => cases read.symm.trans failed

/-- The tokens of a text, the end of the text last. -/
def scan (source : String) : Except ForeignCharacter (List Token) :=
  scanFrom (Reader.ofString source)

end Token

end CalcScript
