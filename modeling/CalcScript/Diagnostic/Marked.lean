import CalcScript.Diagnostic.Basic
import CalcScript.Text.Lines

/-!
# Marked diagnostics

A diagnostic is shown in five lines: its message, its place, a blank line, the line of the source
on which its span starts, and carets under the part of the span on that line. Tabs of the source are
repeated in front of the carets, so that the carets stand below the span however wide a tab is.
-/

set_option autoImplicit false

namespace CalcScript

namespace Text

def repeated (count : Nat) (character : Char) : String :=
  String.ofList (List.replicate count character)

/-- What stands in front of a column, with everything but tabs left blank. -/
def blankedBefore (line : List Char) (column : Nat) : String :=
  String.ofList ((line.take (column - 1)).map fun character =>
    if character = '\t' then '\t' else ' ')

end Text

namespace Span

/-- Number of columns of a span on the line where it starts, of which there is always one. A span
over several lines covers the rest of its first line. -/
def markedColumns (span : Span) (line : List Char) : Nat :=
  if span.stop.line = span.start.line then max (span.stop.column - span.start.column) 1
  else max (line.length - (span.start.column - 1)) 1

end Span

namespace Diagnostic

/-- A diagnostic with the line of the source that it is about. -/
def marked (diagnostic : Diagnostic) (source : String) : String :=
  let span := diagnostic.span
  let line := Text.line source span.start.line
  let number := toString span.start.line
  let gutter := Text.repeated number.length ' '
  diagnostic.category.name ++ " error: " ++ diagnostic.message ++ "\n" ++
    gutter ++ " --> " ++ span.shown ++ "\n" ++
    gutter ++ " |\n" ++
    number ++ " | " ++ String.ofList line ++ "\n" ++
    gutter ++ " | " ++ Text.blankedBefore line span.start.column ++
      Text.repeated (span.markedColumns line) '^'

end Diagnostic

end CalcScript
