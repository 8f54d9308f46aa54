import CalcScript.Proofs.Lexing.Places
import CalcScript.Token.Pull

/-!
# Texts cut out by byte offset

A lexer that keeps no runs of characters cuts the text of each token out of what it has passed, by
the byte offset where the token started. Such a cut is refused if the offset lies past the reader or
inside a character. No cut of the lexer ever is, however often it is asked for a token, and it is
asked at most once for every character of the text before it comes to the last token.
-/

set_option autoImplicit false

namespace CalcScript

namespace Text

theorem byteLength_of_dropBytes? {characters rest : List Char} {bytes : Nat}
    (dropped : dropBytes? characters bytes = some rest) :
    byteLength characters = bytes + byteLength rest := by
  fun_induction dropBytes? characters bytes with
  | case1 characters =>
      cases dropped
      simp
  | case2 bytes => cases dropped
  | case3 character later bytes _ fits ih =>
      have shorter := ih dropped
      rw [byteLength_cons]
      omega
  | case4 => cases dropped

theorem dropBytes?_append_of_le {front : List Char} {bytes : Nat}
    (short : bytes ≤ byteLength front) (back : List Char) :
    dropBytes? (front ++ back) bytes = (dropBytes? front bytes).map (· ++ back) := by
  fun_induction dropBytes? front bytes with
  | case1 front => cases front <;> cases back <;> rfl
  | case2 bytes => simp at short
  | case3 character later bytes positive fits ih =>
      rw [byteLength_cons] at short
      rw [List.cons_append, dropBytes?, if_pos fits, ih (by omega)]
      exact positive
  | case4 character later bytes positive tooLong =>
      rw [List.cons_append, dropBytes?, if_neg tooLong]
      · rfl
      · exact positive

/-- A slice up to the end of a text is not affected by what follows the text. -/
theorem slice?_append_right (front back : List Char) (start : Nat) :
    slice? (front ++ back) start (byteLength front) = slice? front start (byteLength front) := by
  unfold slice?
  by_cases ordered : start ≤ byteLength front
  · rw [if_pos ordered, if_pos ordered, dropBytes?_append_of_le ordered]
    cases dropped : dropBytes? front start with
    | none => rfl
    | some rest =>
        have size : byteLength front - start = byteLength rest := by
          rw [byteLength_of_dropBytes? dropped, Nat.add_sub_cancel_left]
        have whole := takeBytes?_append rest []
        rw [List.append_nil] at whole
        simp only [Option.map_some, Option.bind_some, size, takeBytes?_append, whole]
  · rw [if_neg ordered, if_neg ordered]

end Text

/-- A reader on its way over a text: nothing of the text is lost, and its position is the place that
it has reached. -/
structure Reader.WalksOver (reader : Reader) (source : String) : Prop where
  text : source.toList = reader.passed.reverse ++ reader.ahead
  place : reader.position = Position.behind reader.passed.reverse

namespace Reader.WalksOver

variable {reader : Reader} {source : String}

theorem ofString (source : String) : (Reader.ofString source).WalksOver source :=
  ⟨rfl, Position.start_advance []⟩

theorem pass (walks : reader.WalksOver source) {run rest : List Char}
    (ahead : reader.ahead = run ++ rest) : (reader.pass run rest).WalksOver source where
  text := by simp [Reader.pass, walks.text, ahead]
  place := by simp [Reader.pass, walks.place, Position.behind_advance]

theorem takeWhile (walks : reader.WalksOver source) (accepts : Char → Bool) :
    (reader.takeWhile accepts).WalksOver source :=
  walks.pass List.takeWhile_append_dropWhile.symm

/-- A cut out of what was passed is the same cut out of the whole text. -/
theorem textSince?_eq (walks : reader.WalksOver source) (offset : Nat) :
    reader.textSince? offset =
      (Text.slice? source.toList offset reader.position.offset).map String.ofList := by
  rw [textSince?, walks.text, walks.place]
  exact congrArg _ (Text.slice?_append_right _ _ offset).symm

theorem textSince?_pass (walks : reader.WalksOver source) {run rest : List Char}
    (ahead : reader.ahead = run ++ rest) :
    (reader.pass run rest).textSince? reader.position.offset = some (String.ofList run) := by
  have split : source.toList = reader.passed.reverse ++ (run ++ rest) := by
    rw [walks.text, ahead]
  have cut := Span.extract?_behind split
  rw [(walks.pass ahead).textSince?_eq, (walks.pass ahead).place, walks.place]
  simpa [Span.extract?, Reader.pass] using cut

theorem place_isIn (walks : reader.WalksOver source) : reader.position.IsIn source :=
  ⟨_, _, walks.text, walks.place⟩

end Reader.WalksOver

/-- A place with no part larger than the text. -/
structure Position.Fits (place : Position) (source : String) : Prop where
  offset : place.offset ≤ source.utf8ByteSize
  line : place.line ≤ source.length + 1
  column : place.column ≤ source.length + 1

theorem Position.IsIn.fits {place : Position} {source : String} (isIn : place.IsIn source) :
    place.Fits source := by
  obtain ⟨before, after, split, rfl⟩ := isIn
  have bytes : Text.byteLength source.toList = source.utf8ByteSize := by
    rw [Text.byteLength, String.ofList_toList]
  have characters : source.length = before.length + after.length := by
    rw [← String.length_toList, split, List.length_append]
  have feeds := before.count_le_length (a := '\n')
  have last := (before.reverse.takeWhile_prefix (· ≠ '\n')).length_le
  rw [List.length_reverse] at last
  rw [split, Text.byteLength_append] at bytes
  constructor <;> simp only [behind] <;> omega

namespace Token

/-- The token between two readers, with its text cut out of what the second has passed. The text
decides on the kind, and nothing is given if the cut is refused. -/
def sliced? (kind : String → TokenKind) (before after : Reader) : Option (Token × Reader) :=
  (after.textSince? before.position.offset).map fun text =>
    (⟨kind text, text, before.position, after.position⟩, after)

/-- The next token of a lexer that cuts the texts of its tokens out. -/
def slicedAt? (reader : Reader) : Option (Except ForeignCharacter (Token × Reader)) :=
  match reader.ahead with
  | [] => some (.ok (endOfFile reader.position, reader))
  | character :: rest =>
    match symbolKind? character with
    | some kind => (sliced? (fun _ => kind) reader (reader.pass [character] rest)).map .ok
    | none =>
      if Number.isDigit character then
        (sliced? (fun _ => .number) reader (reader.takeWhile Number.isDigit)).map .ok
      else if Text.isCased character then
        (sliced? (fun text => (TokenKind.keyword? text).getD .identifier) reader
          (reader.takeWhile Text.isCased)).map .ok
      else some (.error ⟨character, reader.position⟩)

def slicedAsk? (reader : Reader) : Option (Item × Reader) :=
  (slicedAt? (reader.takeWhile isBlank)).map fun
    | .ok (token, after) => (.ok token, after)
    | .error error => (.error error, reader.takeWhile isBlank)

def slicedAskTimes? (reader : Reader) : Nat → Option (List Item)
  | 0 => some []
  | times + 1 =>
    (slicedAsk? reader).bind fun (item, after) => (slicedAskTimes? after times).map (item :: ·)

/-- A reader that has been asked for tokens. -/
def afterAsks (reader : Reader) : Nat → Reader
  | 0 => reader
  | times + 1 => afterAsks (ask reader).2 times

variable {reader : Reader} {source : String}

theorem sliced?_pass (walks : reader.WalksOver source) (kind : String → TokenKind)
    {run rest : List Char} (ahead : reader.ahead = run ++ rest) :
    sliced? kind reader (reader.pass run rest) =
      some (lexeme (kind (String.ofList run)) run reader (reader.pass run rest),
        reader.pass run rest) := by
  rw [sliced?, walks.textSince?_pass ahead]
  rfl

/-- No cut is refused, and what is cut out is the run that was passed. -/
theorem slicedAt?_eq (walks : reader.WalksOver source) :
    slicedAt? reader = some (lexemeAt reader) := by
  have whole (accepts : Char → Bool) : reader.ahead =
      reader.ahead.takeWhile accepts ++ reader.ahead.dropWhile accepts :=
    List.takeWhile_append_dropWhile.symm
  rw [slicedAt?, lexemeAt]
  cases ahead : reader.ahead with
  | nil => rfl
  | cons character rest =>
      dsimp only
      cases symbolKind? character with
      | some kind =>
          have joined : reader.ahead = [character] ++ rest := ahead
          simp only [sliced?_pass walks _ joined, Option.map_some]
      | none =>
          dsimp only
          split
          case isTrue =>
            rw [Reader.takeWhile, sliced?_pass walks _ (whole _), Option.map_some, ahead]
          case isFalse =>
            split
            case isTrue =>
              rw [Reader.takeWhile, sliced?_pass walks _ (whole _), Option.map_some, ahead]
              rfl
            case isFalse => rfl

theorem walksOver_of_lexemeAt (walks : reader.WalksOver source) {after : Reader} {token : Token}
    (read : lexemeAt reader = .ok (token, after)) : after.WalksOver source := by
  unfold lexemeAt at read
  split at read
  case h_1 =>
    cases read
    exact walks
  case h_2 character rest ahead =>
    split at read
    case h_1 =>
      cases read
      have joined : reader.ahead = [character] ++ rest := ahead
      exact walks.pass joined
    case h_2 =>
      split at read
      case isTrue =>
        cases read
        exact walks.takeWhile _
      case isFalse =>
        split at read <;> cases read
        exact walks.takeWhile _

theorem walksOver_ask (walks : reader.WalksOver source) : (ask reader).2.WalksOver source := by
  rw [ask]
  cases read : next reader with
  | error error => exact walks.takeWhile isBlank
  | ok found => exact walksOver_of_lexemeAt (walks.takeWhile isBlank) read

theorem walksOver_afterAsks (walks : reader.WalksOver source) (times : Nat) :
    (afterAsks reader times).WalksOver source := by
  induction times generalizing reader with
  | zero => exact walks
  | succ times ih => exact ih (walksOver_ask walks)

theorem slicedAsk?_eq (walks : reader.WalksOver source) : slicedAsk? reader = some (ask reader) := by
  rw [slicedAsk?, slicedAt?_eq (walks.takeWhile isBlank), ask, next]
  cases lexemeAt (reader.takeWhile isBlank) <;> rfl

theorem slicedAskTimes?_eq (walks : reader.WalksOver source) (times : Nat) :
    slicedAskTimes? reader times = some (askTimes reader times) := by
  induction times generalizing reader with
  | zero => rfl
  | succ times ih =>
      rw [slicedAskTimes?, slicedAsk?_eq walks, Option.bind_some]
      simp only [ih (walksOver_ask walks), Option.map_some]
      rfl

/-- Items up to the first that nothing follows. -/
structure EndsFirst (items : List Item) (front : List Item) (last : Item) : Prop where
  eq : items = front ++ [last]
  ends : isLast last = true
  goesOn : ∀ item ∈ front, isLast item = false

/-- Asking for one token after another comes to the last, and collecting what is given until then is
scanning the text. -/
theorem exists_askTimes (reader : Reader) :
    ∃ times front last, times ≤ reader.ahead.length + 1 ∧
      EndsFirst (askTimes reader times) front last ∧
      (askTimes reader times).mapM id = scanFrom reader := by
  fun_induction scanFrom reader with
  | case1 reader error stopped =>
      have asked : askTimes reader 1 = [.error error] := by
        simp [askTimes, ask, stopped]
      refine ⟨1, [], .error error, by omega, ⟨asked, rfl, by simp⟩, ?_⟩
      rw [asked]
      rfl
  | case2 reader token after read ended =>
      have asked : askTimes reader 1 = [.ok token] := by
        simp [askTimes, ask, read]
      refine ⟨1, [], .ok token, by omega, ⟨asked, by simpa [isLast] using ended, by simp⟩, ?_⟩
      rw [asked]
      rfl
  | case3 reader token after read proper shorter ih =>
      obtain ⟨times, front, last, few, ⟨asked, ends, goesOn⟩, collected⟩ := ih
      have askedAll : askTimes reader (times + 1) = .ok token :: askTimes after times := by
        simp [askTimes, ask, read]
      refine ⟨times + 1, .ok token :: front, last, by omega, ⟨?_, ends, ?_⟩, ?_⟩
      · rw [askedAll, asked, List.cons_append]
      · intro item among
        rcases List.mem_cons.mp among with rfl | among
        · simpa [isLast] using proper
        · exact goesOn item among
      · rw [askedAll, List.mapM_cons, collected]
        cases scanFrom after <;> rfl

end Token

end CalcScript
