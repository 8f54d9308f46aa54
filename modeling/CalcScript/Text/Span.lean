import CalcScript.Text.Position
import CalcScript.Text.Slice

/-!
# Spans

A span is the stretch of a text from one position up to another. The span of a compound is joined
from the spans of its parts.
-/

set_option autoImplicit false

namespace CalcScript

/-- The stretch of a text from `start` up to, and without, `stop`. -/
structure Span where
  start : Position
  stop : Position
deriving DecidableEq, Repr

namespace Span

def point (place : Position) : Span := ⟨place, place⟩

/-- The span of a node that was not read from any text. -/
def unplaced : Span := point Position.unplaced

/-- The span from the earlier start to the later stop. -/
def join (left right : Span) : Span :=
  ⟨left.start.earlier right.start, left.stop.later right.stop⟩

/-- The characters that a span covers in a text, if both its ends are places of the text and in
order. -/
def extract? (span : Span) (source : String) : Option String :=
  (Text.slice? source.toList span.start.offset span.stop.offset).map String.ofList

def shown (span : Span) : String := span.start.shown

end Span

end CalcScript
