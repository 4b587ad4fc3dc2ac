import SfcWeave.Document.Parser
import SfcWeave.Proofs.Document.Token

/-!
# The grammar of documents

The text of a document is a sequence of segments: runs of text, comments, closing tags without a
block, single `<`, and blocks. `Segmented offset cs blocks` says that `cs`, which starts at
`offset`, is such a sequence, and that `blocks` are its blocks in order. The relations below it
describe the parts of a block:

* `ValueText`, `AttributeText` and `HeaderText` what stands between the tag and the end of the
  header,
* `IsContent` what may stand up to the closing tag.

Nothing here says how a document is read; `Proofs.Document.Segmentation` shows that the reader
accepts exactly these texts and returns exactly these blocks.
-/

namespace SfcWeave.Document

open Text (byteLength after?)
open Token (IsGap IsName EndsName)

/-! ### Headers -/

/-- The value of an attribute as it is written when `rest` follows: in quotes, or as a name. -/
inductive ValueText : (written : List Char) → AttributeValue → (rest : List Char) → Prop
  | quoted {quote value rest} : quote = '"' ∨ quote = '\'' → quote ∉ value →
      ValueText (quote :: value ++ [quote]) (attributeValue value) rest
  | name {value rest} : IsName value → EndsName rest →
      ValueText value (.text (String.ofList value)) rest

/-- An attribute as it is written at `offset` when `rest` follows: bare, or with a value. A bare
one is not followed by an equals sign, since no header goes on with one. -/
inductive AttributeText :
    Nat → (written : List Char) → Attribute → (rest : List Char) → Prop
  | bare {offset name rest} : IsName name → EndsName rest →
      AttributeText offset name
        ⟨String.ofList name, .flag true, ⟨offset, offset + byteLength name⟩⟩ rest
  | valued {offset name before between written value rest} :
      IsName name → IsGap before → IsGap between → ValueText written value rest →
      AttributeText offset (name ++ before ++ '=' :: between ++ written)
        ⟨String.ofList name, value,
          ⟨offset, offset + byteLength (name ++ before ++ '=' :: between ++ written)⟩⟩ rest

/-- What stands in a header after its tag, with its attributes; `isEmpty` when it ends with `/>`,
so that the block has no content. Slashes may stand anywhere. -/
inductive HeaderText : Nat → List Char → List Attribute → (isEmpty : Bool) → Prop
  | tagEnd {offset gap} : IsGap gap → HeaderText offset (gap ++ ['>']) [] false
  | emptyEnd {offset gap} : IsGap gap → HeaderText offset (gap ++ ['/', '>']) [] true
  | slash {offset gap text attributes isEmpty} : IsGap gap → ¬ ['>'] <+: text →
      HeaderText (offset + byteLength (gap ++ ['/'])) text attributes isEmpty →
      HeaderText offset (gap ++ ['/'] ++ text) attributes isEmpty
  | named {offset gap written a text attributes isEmpty} : IsGap gap →
      AttributeText (offset + byteLength gap) written a text →
      HeaderText (offset + byteLength (gap ++ written)) text attributes isEmpty →
      HeaderText offset (gap ++ written ++ text) (a :: attributes) isEmpty

/-! ### Contents -/

/-- Does the closing tag of a template stand here? -/
def closesTemplate (cs : List Char) : Bool := (after? (closingTag "template".toList) cs).isSome

/-- In how many places of `before` a test holds of the text from there on, when `after` follows. -/
def placesIn (test : List Char → Bool) : (before after : List Char) → Nat
  | [], _ => 0
  | c :: cs, after => (if test (c :: cs ++ after) then 1 else 0) + placesIn test cs after

/-- From left to right no more templates are closed than have been opened, where `depth` are open
at the start, and at the end all are closed. -/
structure Nests (depth : Nat) (content : List Char) : Prop where
  closed_le : ∀ before after, before ++ after = content →
    placesIn closesTemplate before after ≤ depth + placesIn opensTemplate before after
  closed_eq : placesIn closesTemplate content [] = depth + placesIn opensTemplate content []

/-- The texts that may stand between a header and the first closing tag that ends the block: in a
template the nested ones are closed before, in any other block no closing tag occurs. -/
def IsContent (tag content : List Char) : Prop :=
  if tag = "template".toList then Nests 0 content else ¬ closingTag tag <:+: content

/-! ### Segments -/

/-- The text of a block that stands at `offset`. -/
inductive BlockText : Nat → List Char → Block → Prop
  | closed {offset tag header attributes content} : IsName tag → ¬ ['!', '-', '-'] <+: tag →
      EndsName header → HeaderText (offset + byteLength ('<' :: tag)) header attributes false →
      IsContent tag content →
      BlockText offset ('<' :: tag ++ header ++ content ++ closingTag tag)
        { kind := .ofTag (String.ofList tag)
          content := String.ofList content
          attributes
          span := ⟨offset, offset + byteLength ('<' :: tag ++ header ++ content ++ closingTag tag)⟩
          contentSpan := ⟨offset + byteLength ('<' :: tag ++ header),
            offset + byteLength ('<' :: tag ++ header ++ content)⟩ }
  | empty {offset tag header attributes} : IsName tag → ¬ ['!', '-', '-'] <+: tag →
      EndsName header → HeaderText (offset + byteLength ('<' :: tag)) header attributes true →
      BlockText offset ('<' :: tag ++ header)
        { kind := .ofTag (String.ofList tag)
          content := ""
          attributes
          span := ⟨offset, offset + byteLength ('<' :: tag ++ header)⟩
          contentSpan := Span.empty (offset + byteLength ('<' :: tag ++ header)) }

/-- The text from `offset` on is a sequence of segments, among them `blocks` in this order. -/
inductive Segmented : Nat → List Char → List Block → Prop
  | done {offset} : Segmented offset [] []
  | text {offset run rest blocks} : run ≠ [] → '<' ∉ run → (∀ c ∈ rest.head?, c = '<') →
      Segmented (offset + byteLength run) rest blocks → Segmented offset (run ++ rest) blocks
  /-- A comment ends with the first `-->` after its `<!--`. -/
  | comment {offset body rest blocks} : ¬ ['-', '-', '>'] <:+: body ++ ['-', '-'] →
      Segmented (offset + byteLength (['<', '!', '-', '-'] ++ body ++ ['-', '-', '>'])) rest
        blocks →
      Segmented offset (['<', '!', '-', '-'] ++ body ++ ['-', '-', '>'] ++ rest) blocks
  /-- A closing tag without a block ends with the first `>` … -/
  | closing {offset body rest blocks} : '>' ∉ body →
      Segmented (offset + byteLength (['<', '/'] ++ body ++ ['>'])) rest blocks →
      Segmented offset (['<', '/'] ++ body ++ ['>'] ++ rest) blocks
  /-- … or takes all of the text, if there is none. -/
  | unfinishedClosing {offset body} : '>' ∉ body → Segmented offset (['<', '/'] ++ body) []
  | angle {offset rest blocks} : ¬ ['/'] <+: rest → ¬ ['!', '-', '-'] <+: rest → EndsName rest →
      Segmented (offset + 1) rest blocks → Segmented offset ('<' :: rest) blocks
  | block {offset text block rest blocks} : BlockText offset text block →
      Segmented (offset + byteLength text) rest blocks →
      Segmented offset (text ++ rest) (block :: blocks)

/-- `document` holds these blocks and no others: each in its place, templates and scripts at most
once, the rest in order. -/
structure Gathers (blocks : List Block) (document : Document) : Prop where
  template : blocks.filter (·.kind = .template) = document.template.toList
  script : blocks.filter (·.kind = .script) = document.script.toList
  others : blocks.filter (fun block => block.kind ≠ .template ∧ block.kind ≠ .script) =
    document.blocks

end SfcWeave.Document
