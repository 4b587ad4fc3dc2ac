import SfcWeave.Text.Bytes

/-!
# Spans

A span is a pair of byte offsets into a text. `Span.slice?` reads the text under a span and
`Span.splice?` replaces it; both succeed exactly on the spans that lie inside the text, in order
and on character boundaries (`Span.cut?`).
-/

namespace SfcWeave

/-- The part of a text from the byte offset `start` up to `stop`. -/
structure Span where
  start : Nat
  stop : Nat
deriving DecidableEq, Repr, Inhabited

namespace Span

/-- The empty span at an offset. -/
def empty (offset : Nat) : Span := ⟨offset, offset⟩

/-- The span that lies `base` bytes further on. -/
def shift (base : Nat) (span : Span) : Span := ⟨base + span.start, base + span.stop⟩

/-- The text before, under and after a span. -/
def cut? (span : Span) (text : List Char) : Option (List Char × List Char × List Char) :=
  if span.start ≤ span.stop then do
    let (before, rest) ← Text.splitAt? span.start text
    let (middle, after) ← Text.splitAt? (span.stop - span.start) rest
    some (before, middle, after)
  else none

/-- The text under a span. -/
def slice? (span : Span) (text : String) : Option String :=
  (span.cut? text.toList).map fun (_, middle, _) => String.ofList middle

/-- The text with the part under a span replaced. -/
def splice? (span : Span) (text replacement : String) : Option String :=
  (span.cut? text.toList).map fun (before, _, after) =>
    String.ofList (before ++ replacement.toList ++ after)

end Span

end SfcWeave
