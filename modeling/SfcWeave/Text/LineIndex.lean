/-!
# Line and column of an offset

`LineIndex` is the table of the offsets at which lines start; only a line feed ends a line.
`LineIndex.find?` looks an offset up by bisection. Lines and columns count from zero, columns in
bytes, and are displayed from one.
-/

namespace SfcWeave

/-- A position by line and by byte column in the line, both from zero. -/
structure LineColumn where
  line : Nat
  column : Nat
deriving DecidableEq, Repr, Inhabited

namespace LineColumn

/-- The position as readers count: `line:column`, both from one. -/
def display (position : LineColumn) : String :=
  toString (position.line + 1) ++ ":" ++ toString (position.column + 1)

end LineColumn

/-- The starts of the lines of a text, and the text's size. -/
structure LineIndex where
  starts : Array Nat
  size : Nat
deriving Repr

namespace LineIndex

/-- The offsets that follow a line feed, for a text that begins at `offset`. -/
def startsAfter : Nat → List Char → List Nat
  | _, [] => []
  | offset, c :: cs =>
    let next := offset + c.utf8Size
    if c = '\n' then next :: startsAfter next cs else startsAfter next cs

/-- The table of a text. -/
def ofText (text : String) : LineIndex where
  starts := (0 :: startsAfter 0 text.toList).toArray
  size := text.utf8ByteSize

/-- The number of entries up to `offset` among those at `low ≤ i < high`, plus `low`, when the
entries increase: the range is halved at each step. -/
def bisect (starts : Array Nat) (offset low high : Nat) : Nat :=
  if _h : low < high then
    let middle := (low + high) / 2
    if starts.getD middle 0 ≤ offset then bisect starts offset (middle + 1) high
    else bisect starts offset low middle
  else low
termination_by high - low

/-- The position of an offset; there is none past the end of the text. -/
def find? (index : LineIndex) (offset : Nat) : Option LineColumn :=
  if offset ≤ index.size then
    let line := bisect index.starts offset 0 index.starts.size - 1
    some ⟨line, offset - index.starts.getD line 0⟩
  else none

end LineIndex

end SfcWeave
