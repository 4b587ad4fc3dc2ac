import SfcWeave.Document.Basic
import SfcWeave.Document.Error
import SfcWeave.Text.Indent
import SfcWeave.Text.Search

/-!
# Reading a document

The source is read from left to right for `<`. What stands between blocks (text, comments, closing
tags without a block) is dropped. A block runs from its header to its closing tag, which is found
by searching the text for it; inside a template, nested templates are counted.

All functions here work on the text that remains and the offset at which it starts. Each step
returns a shorter text, which is why reading ends.
-/

namespace SfcWeave.Document

open Text (byteLength splitOnce? firstCut? after?)

/-! ### Headers -/

/-- The value of an attribute as written: an empty one counts as none. -/
def attributeValue (value : List Char) : AttributeValue :=
  if value = [] then .flag true else .text (String.ofList value)

/-- The value that starts at or after `offset`, where it ends and the text that follows. -/
def readValue (offset : Nat) (cs : List Char) :
    Except ParseError (AttributeValue × Nat × List Char) :=
  match Token.next? offset cs with
  | none =>
    .error ⟨.unexpectedToken .attributeValue .endOfFile, Span.empty (offset + byteLength cs)⟩
  | some (token, rest) =>
    match token.kind with
    | .doubleQuoted | .singleQuoted =>
      .ok (attributeValue (token.text.drop 1).dropLast, token.span.stop, rest)
    | .name => .ok (attributeValue token.text, token.span.stop, rest)
    | found => .error ⟨.unexpectedToken .attributeValue found, token.span⟩

/-- The attribute whose name has just been read: with the value that follows an equals sign, or
bare. -/
def readAttribute (name : Token) (cs : List Char) :
    Except ParseError (Attribute × Nat × List Char) :=
  let bare := (⟨String.ofList name.text, .flag true, name.span⟩, name.span.stop, cs)
  match Token.next? name.span.stop cs with
  | none => .ok bare
  | some (sign, rest) =>
    if sign.kind = .equals then do
      let (value, stop, after) ← readValue sign.span.stop rest
      .ok (⟨String.ofList name.text, value, ⟨name.span.start, stop⟩⟩, stop, after)
    else .ok bare

theorem length_of_readValue {offset : Nat} {cs rest : List Char} {value : AttributeValue}
    {stop : Nat} (h : readValue offset cs = .ok (value, stop, rest)) : rest.length < cs.length := by
  unfold readValue at h
  split at h
  · simp at h
  · rename_i token after hnext
    have hlt := Token.length_of_next? hnext
    split at h <;> simp_all

theorem length_of_readAttribute {name : Token} {cs rest : List Char} {a : Attribute} {stop : Nat}
    (h : readAttribute name cs = .ok (a, stop, rest)) : rest.length ≤ cs.length := by
  unfold readAttribute at h
  split at h
  · simp_all
  · rename_i sign after hnext
    have hlt := Token.length_of_next? hnext
    split at h
    · cases hv : readValue sign.span.stop after with
      | error e => simp [hv, bind, Except.bind] at h
      | ok r =>
        obtain ⟨value, stop', after'⟩ := r
        have := length_of_readValue hv
        simp only [hv, bind, Except.bind, Except.ok.injEq, Prod.mk.injEq] at h
        rw [← h.2.2]
        omega
    · simp_all

/-- What was read of a header after its tag, and the text that follows it. -/
structure Header where
  attributes : List Attribute
  /-- Ended by `/>`: the block has no content. -/
  isEmpty : Bool
  /-- The offset after the header. -/
  stop : Nat
  rest : List Char

/-- Reads a header from after its tag to its end; `start` is where it was opened. -/
def readHeader (start offset : Nat) (cs : List Char) : Except ParseError Header :=
  match _hnext : Token.next? offset cs with
  | none => .error ⟨.unexpectedEnd .tagEnd, ⟨start, offset + byteLength cs⟩⟩
  | some (token, rest) =>
    match token.kind with
    | .tagEnd => .ok ⟨[], false, token.span.stop, rest⟩
    | .emptyEnd => .ok ⟨[], true, token.span.stop, rest⟩
    | .slash => readHeader start token.span.stop rest
    | .name =>
      match _ha : readAttribute token rest with
      | .error e => .error e
      | .ok (a, stop, after) =>
        (readHeader start stop after).map fun header =>
          { header with attributes := a :: header.attributes }
    | found => .error ⟨.unexpectedToken .attributeOrTagEnd found, token.span⟩
termination_by cs.length
decreasing_by
  · exact Token.length_of_next? _hnext
  · have := Token.length_of_next? _hnext
    have := length_of_readAttribute _ha
    omega

theorem length_of_readHeader {start offset : Nat} {cs : List Char} {header : Header}
    (h : readHeader start offset cs = .ok header) : header.rest.length < cs.length := by
  fun_induction readHeader start offset cs generalizing header with
  | case1 => simp at h
  | case2 _ _ _ _ hnext | case3 _ _ _ _ hnext =>
    have := Token.length_of_next? hnext
    simp only [Except.ok.injEq] at h
    rw [← h]; exact this
  | case4 _ _ _ _ hnext _ ih => exact Nat.lt_trans (ih h) (Token.length_of_next? hnext)
  | case5 => simp at h
  | case6 _ _ _ rest hnext _ a stop after ha ih =>
    have hlt := Token.length_of_next? hnext
    have hle := length_of_readAttribute ha
    cases hr : readHeader start stop after with
    | error e => simp [hr, Except.map] at h
    | ok inner =>
      have := ih hr
      simp only [hr, Except.map, Except.ok.injEq] at h
      rw [← h]
      simp only
      omega
  | case7 => simp at h

/-! ### Content -/

/-- The closing tag of the blocks with a tag. -/
def closingTag (tag : List Char) : List Char := ['<', '/'] ++ tag ++ ['>']

/-- Does a nested template open here? -/
def opensTemplate (cs : List Char) : Bool :=
  match after? "<template".toList cs with
  | some (c :: _) => c == ' ' || c == '\t' || c == '\n' || c == '\r' || c == '>'
  | _ => false

/-- The content of a template up to its closing tag, and the text after that, when `depth` nested
templates are open. -/
def templateContent? (depth : Nat) : List Char → Option (List Char × List Char)
  | [] => none
  | c :: cs =>
    match h : after? (closingTag "template".toList) (c :: cs) with
    | some rest =>
      if depth = 0 then some ([], rest)
      else (templateContent? (depth - 1) rest).map fun (content, after) =>
        (closingTag "template".toList ++ content, after)
    | none =>
      (templateContent? (depth + if opensTemplate (c :: cs) then 1 else 0) cs).map
        fun (content, after) => (c :: content, after)
termination_by cs => cs.length
decreasing_by
  · have := Text.length_of_after? h
    have : (closingTag "template".toList).length ≠ 0 := by decide
    omega
  · simp

/-- The content of a block up to its closing tag, and the text after that. -/
def content? (tag cs : List Char) : Option (List Char × List Char) :=
  if tag = "template".toList then templateContent? 0 cs else splitOnce? (closingTag tag) cs

theorem length_of_templateContent? {depth : Nat} {cs content rest : List Char}
    (h : templateContent? depth cs = some (content, rest)) : rest.length ≤ cs.length := by
  fun_induction templateContent? depth cs generalizing content with
  | case1 => simp at h
  | case2 c cs after hafter =>
    have hlen := Text.length_of_after? hafter
    simp only [Option.some.injEq, Prod.mk.injEq] at h
    rw [← h.2]; omega
  | case3 depth c cs after hafter _ ih =>
    have hlen := Text.length_of_after? hafter
    obtain ⟨⟨inner, after'⟩, hinner, heq⟩ := Option.map_eq_some_iff.1 h
    simp only [Prod.mk.injEq] at heq
    have := ih (heq.2 ▸ hinner)
    omega
  | case4 depth c cs _ ih =>
    obtain ⟨⟨inner, after'⟩, hinner, heq⟩ := Option.map_eq_some_iff.1 h
    simp only [Prod.mk.injEq] at heq
    have := ih (heq.2 ▸ hinner)
    simp only [List.length_cons]; omega

theorem length_of_splitOnce? {needle cs before rest : List Char}
    (h : splitOnce? needle cs = some (before, rest)) : rest.length ≤ cs.length := by
  obtain ⟨⟨x, found⟩, hcut, heq⟩ := Option.map_eq_some_iff.1 h
  simp only [Prod.mk.injEq] at heq
  have hfound : found.length ≤ cs.length := by
    clear h heq
    induction cs generalizing x with
    | nil =>
      simp only [firstCut?] at hcut
      split at hcut <;> simp_all
    | cons c cs ih =>
      rw [firstCut?] at hcut
      split at hcut
      · simp only [Option.some.injEq, Prod.mk.injEq] at hcut
        simp [← hcut.2]
      · obtain ⟨⟨y, found'⟩, hcut', heq'⟩ := Option.map_eq_some_iff.1 hcut
        simp only [Prod.mk.injEq] at heq'
        have := ih y (by rw [hcut', heq'.2])
        simp only [List.length_cons]; omega
  rw [← heq.2]
  simp only [List.length_drop]
  omega

theorem length_of_content? {tag cs content rest : List Char}
    (h : content? tag cs = some (content, rest)) : rest.length ≤ cs.length := by
  unfold content? at h
  split at h
  · exact length_of_templateContent? h
  · exact length_of_splitOnce? h

/-! ### Blocks -/

/-- Reads the block with a tag whose `<` stands at `start`; `cs` is the text after the tag. The
result is the block with its content as it stands, and the text after the block. -/
def readBlock (start : Nat) (tag cs : List Char) : Except ParseError (Block × List Char) := do
  let header ← readHeader start (start + 1 + byteLength tag) cs
  let block (content : List Char) (stop : Nat) : Block :=
    { kind := .ofTag (String.ofList tag)
      content := String.ofList content
      attributes := header.attributes
      span := ⟨start, stop⟩
      contentSpan := ⟨header.stop, header.stop + byteLength content⟩ }
  if header.isEmpty then .ok (block [] header.stop, header.rest)
  else match content? tag header.rest with
    | none => .error ⟨.unclosedBlock (String.ofList tag), ⟨start, header.stop⟩⟩
    | some (content, rest) =>
      .ok (block content (header.stop + byteLength content + byteLength (closingTag tag)), rest)

theorem length_of_readBlock {start : Nat} {tag cs rest : List Char} {block : Block}
    (h : readBlock start tag cs = .ok (block, rest)) : rest.length < cs.length := by
  unfold readBlock at h
  cases hh : readHeader start (start + 1 + byteLength tag) cs with
  | error e => simp [hh, bind, Except.bind] at h
  | ok header =>
    have hlt := length_of_readHeader hh
    simp only [hh, bind, Except.bind] at h
    split at h
    · simp only [Except.ok.injEq, Prod.mk.injEq] at h
      rw [← h.2]; exact hlt
    · split at h
      · simp at h
      · rename_i content rest' hc
        have := length_of_content? hc
        simp only [Except.ok.injEq, Prod.mk.injEq] at h
        rw [← h.2]; omega

/-- Adds a block in its place; a second template or script is refused. -/
def store (document : Document) (block : Block) : Except ParseError Document :=
  let duplicate : Except ParseError Document :=
    .error ⟨.duplicateBlock block.kind.tag, block.span⟩
  match block.kind with
  | .template =>
    if document.template.isSome then duplicate else .ok { document with template := some block }
  | .script =>
    if document.script.isSome then duplicate else .ok { document with script := some block }
  | _ => .ok { document with blocks := document.blocks ++ [block] }

/-- Reads the blocks of `cs`, the text at `offset`, into a document; each is prepared before it is
stored. -/
def readBlocks (prepare : Block → Block) (document : Document) (offset : Nat) (cs : List Char) :
    Except ParseError Document :=
  match cs with
  | [] => .ok document
  | c :: cs =>
    if c ≠ '<' then readBlocks prepare document (offset + c.utf8Size) cs
    else match _hcomment : after? ['!', '-', '-'] cs with
      | some body =>
        match _hbody : splitOnce? ['-', '-', '>'] body with
        | none =>
          .error ⟨.unexpectedEnd .commentEnd, ⟨offset, offset + 1 + byteLength cs⟩⟩
        | some (comment, rest) =>
          readBlocks prepare document (offset + 4 + byteLength comment + 3) rest
      | none =>
        match _hclosing : after? ['/'] cs with
        | some inner =>
          match _hinner : splitOnce? ['>'] inner with
          | none => .ok document
          | some (text, rest) =>
            readBlocks prepare document (offset + 2 + byteLength text + 1) rest
        | none =>
          let tag := cs.takeWhile Token.isNameChar
          if tag = [] then readBlocks prepare document (offset + 1) cs
          else match _hblock : readBlock offset tag (cs.dropWhile Token.isNameChar) with
            | .error e => .error e
            | .ok (block, rest) =>
              match store document (prepare block) with
              | .error e => .error e
              | .ok document => readBlocks prepare document block.span.stop rest
termination_by cs.length
decreasing_by
  · simp
  · have := Text.length_of_after? _hcomment
    have := length_of_splitOnce? _hbody
    simp only [List.length_cons] at *
    omega
  · have := Text.length_of_after? _hclosing
    have := length_of_splitOnce? _hinner
    simp only [List.length_cons] at *
    omega
  · simp
  · have := length_of_readBlock _hblock
    have := Token.length_dropWhile_le Token.isNameChar cs
    simp only [List.length_cons]
    omega

/-- The block with the common indentation of its content removed. -/
def deindented (block : Block) : Block :=
  { block with content := Text.deindent block.content }

/-- Reads a document; with `deindent` the common indentation of every content is removed. -/
def parse (source : String) (deindent : Bool := true) : Except ParseError Document :=
  readBlocks (if deindent then deindented else id) {} 0 source.toList

end SfcWeave.Document
