import CalcScript.Token.Basic

/-!
# Token streams

A parser reads its tokens from a stream. When the tokens run out the stream stays at an end of file
just after the last token that was read, whether or not the tokens themselves end with one.
-/

set_option autoImplicit false

namespace CalcScript

/-- The tokens not read yet, and where the last token read stands. -/
structure TokenStream where
  remaining : List Token
  lastSpan : Span
deriving DecidableEq, Repr

namespace TokenStream

def ofList (tokens : List Token) : TokenStream := ⟨tokens, Span.unplaced⟩

def current (stream : TokenStream) : Token :=
  match stream.remaining with
  | [] => Token.endOfFile stream.lastSpan.stop
  | token :: _ => token

def advanced (stream : TokenStream) : TokenStream := ⟨stream.remaining.tail, stream.current.span⟩

/-- A stream whose current token is not an end of file has tokens left. -/
theorem advanced_shortens {stream : TokenStream} (proper : stream.current.kind ≠ .endOfFile) :
    stream.advanced.remaining.length < stream.remaining.length := by
  cases remaining : stream.remaining with
  | nil => simp [current, remaining, Token.endOfFile] at proper
  | cons token rest => simp [advanced, remaining]

end TokenStream

end CalcScript
