import SfcWeave.Proofs.Document.Segmentation

/-!
# Reading a document by offsets

`Document.parse` works on the text that remains, so that it cannot leave the source, and it ends
because that text becomes shorter. `Addressed.parse` reads the same documents with nothing but
offsets into the source: it takes the parts it needs by their spans, which keep offsets in 32 bits,
and computes from tokens and searches where to go on. It stops with a `Misstep` if a span is none of
the source, if a loop does not go forward, or if more templates are closed than have been opened.

There is no misstep in a source whose offsets can be kept, and both read the same; see
`Proofs.Document.Agreement`.
-/

namespace SfcWeave.Document

open Text (byteLength firstCut?)

namespace Addressed

/-- What must not happen. -/
inductive Misstep where
  /-- A part of a text is taken where it has none, or within a character. -/
  | slice (span : Span)
  /-- A loop does not go forward from an offset. -/
  | standstill (offset : Nat)
  /-- A template is closed at an offset, and none is open. -/
  | depth (offset : Nat)
deriving DecidableEq, Repr

/-- Why reading stops before its end. -/
inductive Halt where
  | error (cause : ParseError)
  | misstep (cause : Misstep)
deriving DecidableEq, Repr

/-! ### Texts and tokens -/

/-- The text under a span. -/
def slice (text : List Char) (span : Span) : Except Halt (List Char) :=
  match span.cut? text with
  | some (_, middle, _) => .ok middle
  | none => .error (.misstep (.slice span))

/-- The text from an offset on. -/
def tail (text : List Char) (offset : Nat) : Except Halt (List Char) :=
  slice text ⟨offset, byteLength text⟩

/-- Where a text occurs first. -/
def find? (needle text : List Char) : Option Nat :=
  (firstCut? needle text).map fun (before, _) => byteLength before

/-- A span keeps its offsets in 32 bits. -/
def span32 (start stop : Nat) : Span := ⟨start % UInt32.size, stop % UInt32.size⟩

/-- A token by its kind and its place, and the offset from which the next one is read. -/
structure Mark where
  kind : TokenKind
  span : Span
  stop : Nat
deriving DecidableEq, Repr

/-- The first token at or after an offset; at the end of the source there is one for the end. -/
def next (source : List Char) (offset : Nat) : Except Halt Mark := do
  let rest ← tail source offset
  match Token.next? offset rest with
  | none => .ok ⟨.endOfFile, span32 (byteLength source) (byteLength source), byteLength source⟩
  | some (token, _) =>
    .ok ⟨token.kind, span32 token.span.start token.span.stop, token.span.stop⟩

/-! ### Headers -/

/-- The value that starts at or after an offset, and its token. -/
def readValue (source : List Char) (offset : Nat) : Except Halt (AttributeValue × Mark) := do
  let token ← next source offset
  match token.kind with
  | .doubleQuoted | .singleQuoted =>
    let quoted ← slice source token.span
    let value ← slice quoted ⟨1, byteLength quoted - 1⟩
    .ok (attributeValue value, token)
  | .name =>
    let value ← slice source token.span
    .ok (attributeValue value, token)
  | found => .error (.error ⟨.unexpectedToken .attributeValue found, token.span⟩)

/-- The attribute whose name has just been read, and the token after it. -/
def readAttribute (source : List Char) (name : Mark) : Except Halt (Attribute × Mark) := do
  let text ← slice source name.span
  let sign ← next source name.stop
  if sign.kind = .equals then
    let (value, last) ← readValue source sign.stop
    let token ← next source last.stop
    .ok (⟨String.ofList text, value, ⟨name.span.start, last.span.stop⟩⟩, token)
  else .ok (⟨String.ofList text, .flag true, name.span⟩, sign)

/-- An opening tag: its name, its attributes, whether it ends with `/>`, and where it ends. -/
structure OpenTag where
  name : List Char
  attributes : List Attribute
  isEmpty : Bool
  stop : Nat
deriving DecidableEq, Repr

/-- How much of the source is left behind a token: there is more behind every token than behind the
end. -/
def Mark.ahead (source : List Char) (token : Mark) : Nat :=
  if token.kind = .endOfFile then 0 else byteLength source + 1 - token.stop

/-- Reads on in a header with a token that has been read; `attributes` came before it. -/
def readHeader (source : List Char) (start : Nat) (name : List Char) (attributes : List Attribute)
    (token : Mark) : Except Halt OpenTag :=
  match token.kind with
  | .tagEnd => .ok ⟨name, attributes, false, token.span.stop⟩
  | .emptyEnd => .ok ⟨name, attributes, true, token.span.stop⟩
  | .slash => do
    let more ← next source token.stop
    if _hless : more.ahead source < token.ahead source then
      readHeader source start name attributes more
    else .error (.misstep (.standstill token.stop))
  | .name => do
    let (a, more) ← readAttribute source token
    if _hless : more.ahead source < token.ahead source then
      readHeader source start name (attributes ++ [a]) more
    else .error (.misstep (.standstill token.stop))
  | .endOfFile => .error (.error ⟨.unexpectedEnd .tagEnd, span32 start (byteLength source)⟩)
  | found => .error (.error ⟨.unexpectedToken .attributeOrTagEnd found, token.span⟩)
termination_by token.ahead source

/-- The opening tag whose `<` stands at `start`, if there is one. -/
def openTag? (source : List Char) (start stop : Nat) : Except Halt (Option OpenTag) := do
  let token ← next source stop
  if token.kind = .name ∧ token.span.start = start + 1 then
    let name ← slice source token.span
    let first ← next source token.stop
    let tag ← readHeader source start name [] first
    .ok (some tag)
  else .ok none

/-! ### Blocks -/

/-- To go on at `more` is to go forward from `offset`. -/
def Forward (source : List Char) (offset more : Nat) : Prop :=
  offset < more ∧ more ≤ byteLength source

instance (source : List Char) (offset more : Nat) : Decidable (Forward source offset more) :=
  inferInstanceAs (Decidable (_ ∧ _))

theorem Forward.less {source : List Char} {offset more : Nat} (h : Forward source offset more) :
    byteLength source - more < byteLength source - offset := by
  obtain ⟨hlt, hle⟩ := h
  omega

/-- Where the content of a template ends, of which `depth` are open at an offset. -/
def templateEnd? (source : List Char) (depth offset : Nat) : Except Halt (Option Nat) := do
  let rest ← tail source offset
  match find? ['<'] rest with
  | none => .ok none
  | some found =>
    let rest ← tail source (offset + found)
    if closesTemplate rest then
      if depth = 0 then .error (.misstep (.depth (offset + found)))
      else if depth = 1 then .ok (some (offset + found))
      else
        let more := offset + found + byteLength (closingTag "template".toList)
        if _hforward : Forward source offset more then templateEnd? source (depth - 1) more
        else .error (.misstep (.standstill offset))
    else
      let more := offset + found + 1
      if _hforward : Forward source offset more then
        templateEnd? source (if opensTemplate rest then depth + 1 else depth) more
      else .error (.misstep (.standstill offset))
termination_by byteLength source - offset
decreasing_by all_goals exact Forward.less _hforward

/-- Where the content of a block ends that starts at an offset. -/
def contentEnd? (source name : List Char) (offset : Nat) : Except Halt (Option Nat) := do
  if BlockKind.ofTag (String.ofList name) = .template then templateEnd? source 1 offset
  else
    let rest ← tail source offset
    .ok ((find? (closingTag name) rest).map (offset + ·))

/-- Stores the block with an opening tag whose content stands under a span, and goes on at
`stop`. -/
def storeBlock (source : List Char) (deindent : Bool) (document : Document) (start : Nat)
    (tag : OpenTag) (contentSpan : Span) (stop : Nat) : Except Halt (Document × Nat) := do
  let content ← slice source contentSpan
  let block : Block :=
    { kind := .ofTag (String.ofList tag.name)
      content := String.ofList content
      attributes := tag.attributes
      span := span32 start stop
      contentSpan }
  let document ← (store document (prepared deindent block)).mapError Halt.error
  .ok (document, stop)

/-- Reads the block behind an opening tag and stores it. -/
def readBlock (source : List Char) (deindent : Bool) (document : Document) (start : Nat)
    (tag : OpenTag) : Except Halt (Document × Nat) := do
  if tag.isEmpty then
    storeBlock source deindent document start tag (span32 tag.stop tag.stop) tag.stop
  else
    match ← contentEnd? source tag.name tag.stop with
    | none => .error (.error ⟨.unclosedBlock (String.ofList tag.name), span32 start tag.stop⟩)
    | some contentEnd =>
      storeBlock source deindent document start tag (span32 tag.stop contentEnd)
        (contentEnd + byteLength tag.name + 3)

/-- Reads what starts with the `<` at `start`, and returns where to go on. -/
def readPiece (source : List Char) (deindent : Bool) (document : Document) (start : Nat) :
    Except Halt (Document × Nat) := do
  let first ← next source start
  match first.kind with
  | .commentOpen =>
    let body ← tail source first.span.stop
    match find? ['-', '-', '>'] body with
    | some found => .ok (document, first.span.stop + found + 3)
    | none =>
      .error (.error ⟨.unexpectedEnd .commentEnd, span32 first.span.start (byteLength source)⟩)
  | .closingOpen =>
    let rest ← tail source start
    match find? ['>'] rest with
    | some found => .ok (document, start + found + 1)
    | none => .ok (document, byteLength source)
  | .tagOpen =>
    match ← openTag? source start first.stop with
    | some tag => readBlock source deindent document start tag
    | none => .ok (document, start + 1)
  | _ => .ok (document, start + 1)

/-- Reads the blocks from an offset on into a document. -/
def readBlocks (source : List Char) (deindent : Bool) (document : Document) (offset : Nat) :
    Except Halt Document := do
  let rest ← tail source offset
  match find? ['<'] rest with
  | none => .ok document
  | some found =>
    let (document, more) ← readPiece source deindent document (offset + found)
    if _hforward : Forward source offset more then readBlocks source deindent document more
    else .error (.misstep (.standstill offset))
termination_by byteLength source - offset
decreasing_by exact Forward.less _hforward

/-- Reads a document by offsets. -/
def parse (source : String) (deindent : Bool) : Except Halt Document :=
  readBlocks source.toList deindent {} 0

end Addressed

end SfcWeave.Document
