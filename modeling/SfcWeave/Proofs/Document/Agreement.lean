import SfcWeave.Proofs.Document.HeaderAgreement
import SfcWeave.Proofs.Document.Markup

/-!
# Documents by offsets

Reading a source by offsets has the same result as reading it from the text, if its offsets fit into
32 bits:

    parse_addressed : source.utf8ByteSize < UInt32.size →
      Addressed.parse source deindent = (parse source deindent).mapError .error

So no misstep occurs. Errors are about parts of the source (`exists_slice?_of_parse_error`).
-/

namespace SfcWeave.Document

open Text (byteLength byteLength_append RestAt after? splitOnce?)

/-! ### Reading piece by piece -/

/-- The block behind a header, and the text after it. -/
def blockOf (start : Nat) (tag : List Char) (header : Header) :
    Except ParseError (Block × List Char) :=
  let block (content : List Char) (stop : Nat) : Block :=
    { kind := .ofTag (String.ofList tag)
      content := String.ofList content
      attributes := header.attributes
      span := ⟨start, stop⟩
      contentSpan := ⟨header.stop, header.stop + byteLength content⟩ }
  if header.isEmpty then .ok (block [] header.stop, header.rest)
  else match content? tag header.rest with
    | none => .error ⟨.unclosedBlock (String.ofList tag), ⟨start, header.stop⟩⟩
    | some (content, rest) =>
      .ok (block content (header.stop + byteLength content + byteLength (closingTag tag)), rest)

theorem readBlock_eq (start : Nat) (tag cs : List Char) :
    readBlock start tag cs =
      readHeader start (start + 1 + byteLength tag) cs >>= blockOf start tag := rfl

/-- What starts with a `<` at an offset, with `cs` behind it: the document after it has been read,
and where and with which text to go on. -/
def readPiece (prepare : Block → Block) (document : Document) (offset : Nat) (cs : List Char) :
    Except ParseError (Document × Nat × List Char) :=
  match after? ['!', '-', '-'] cs with
  | some body =>
    match splitOnce? ['-', '-', '>'] body with
    | none => .error ⟨.unexpectedEnd .commentEnd, ⟨offset, offset + 1 + byteLength cs⟩⟩
    | some (comment, rest) => .ok (document, offset + 4 + byteLength comment + 3, rest)
  | none =>
    match after? ['/'] cs with
    | some inner =>
      match splitOnce? ['>'] inner with
      | none => .ok (document, offset + 1 + byteLength cs, [])
      | some (body, rest) => .ok (document, offset + 2 + byteLength body + 1, rest)
    | none =>
      let tag := cs.takeWhile Token.isNameChar
      if tag = [] then .ok (document, offset + 1, cs)
      else do
        let (block, rest) ← readBlock offset tag (cs.dropWhile Token.isNameChar)
        let document ← store document (prepare block)
        .ok (document, block.span.stop, rest)

/-- Blocks are read one piece after the other. -/
theorem readBlocks_eq_readPiece {prepare : Block → Block} {document : Document} {offset : Nat}
    {cs : List Char} :
    readBlocks prepare document offset ('<' :: cs) = (do
      let (document, stop, rest) ← readPiece prepare document offset cs
      readBlocks prepare document stop rest) := by
  rw [readBlocks_angle, readPiece]
  cases after? ['!', '-', '-'] cs with
  | some body =>
    dsimp only
    cases splitOnce? ['-', '-', '>'] body with
    | none => rfl
    | some found => rfl
  | none =>
    dsimp only
    cases after? ['/'] cs with
    | some inner =>
      dsimp only
      cases splitOnce? ['>'] inner with
      | none => exact readBlocks_nil.symm
      | some found => rfl
    | none =>
      dsimp only
      split
      · rfl
      · simp only [bind_assoc]
        rfl

namespace Addressed

variable {source cs rest front : List Char} {offset start stop : Nat}

/-! ### Contents -/

/-- The first `<` decides how the end of a template is looked for. -/
theorem templateEnd?_angle (h : RestAt source offset (front ++ '<' :: rest)) (hrun : '<' ∉ front)
    (depth : Nat) :
    templateEnd? source (depth + 1) offset =
      if closesTemplate ('<' :: rest) then
        if depth = 0 then .ok (some (offset + byteLength front))
        else templateEnd? source depth
          (offset + byteLength front + byteLength (closingTag "template".toList))
      else templateEnd? source (depth + (if opensTemplate ('<' :: rest) then 1 else 0) + 1)
        (offset + byteLength front + 1) := by
  have hrest := h.append
  have hsource := hrest.size
  rw [templateEnd?, tail_eq h]
  simp only [bind, Except.bind]
  rw [find?_singleton hrun]
  simp only [tail_eq hrest]
  split
  · next hcloses =>
    obtain ⟨after, hafter⟩ := closesTemplate_iff.mp hcloses
    rw [← hafter, byteLength_append] at hsource
    have hpos : 0 < byteLength (closingTag "template".toList) := by decide
    rw [if_neg (Nat.succ_ne_zero depth)]
    split
    · next hone => rw [if_pos (by omega)]
    · next hmore =>
      rw [if_neg (by omega), dif_pos ⟨by omega, by omega⟩]
      rfl
  · rw [byteLength_angle] at hsource
    rw [dif_pos ⟨by omega, by omega⟩]
    split
    · rfl
    · rfl

/-- Where a content ends that starts at an offset. -/
def contentEnd (offset : Nat) : List Char × List Char → Nat
  | (content, _) => offset + byteLength content

theorem map_contentEnd_inFront (found : Option (List Char × List Char)) (offset : Nat)
    (text : List Char) :
    (found.map (inFront text)).map (contentEnd offset) =
      found.map (contentEnd (offset + byteLength text)) := by
  cases found with
  | none => rfl
  | some found => simp [inFront, contentEnd, Nat.add_assoc]

/-- A template ends where its content does. -/
theorem templateEnd?_eq (h : RestAt source offset cs) (depth : Nat) :
    templateEnd? source (depth + 1) offset =
      .ok ((templateContent? depth cs).map (contentEnd offset)) := by
  induction hn : byteLength source - offset using Nat.strong_induction_on
    generalizing offset cs depth with
  | h n ih =>
    have hmore : ∀ {offset' cs'}, offset < offset' → RestAt source offset' cs' → ∀ depth,
        templateEnd? source (depth + 1) offset' =
          .ok ((templateContent? depth cs').map (contentEnd offset')) := by
      intro offset' cs' hlt hcs' depth
      have hstop := hcs'.size
      exact ih _ (by omega) hcs' depth rfl
    by_cases hangle : '<' ∈ cs
    · -- up to the `<` nothing changes
      obtain ⟨run, rest, rfl, hrun⟩ := List.eq_append_cons_of_mem hangle
      have hrest := h.append
      rw [templateEnd?_angle h hrun, templateContent?_of_not_mem hrun, map_contentEnd_inFront]
      split
      · next hcloses =>
        obtain ⟨after, hafter⟩ := closesTemplate_iff.mp hcloses
        rw [← hafter] at hrest ⊢
        rw [templateContent?_closingTag]
        split
        · rfl
        · next hdepth =>
          obtain ⟨depth, rfl⟩ := Nat.exists_eq_succ_of_ne_zero hdepth
          have hpos : 0 < byteLength (closingTag "template".toList) := by decide
          rw [map_contentEnd_inFront]
          exact hmore (by omega) hrest.append depth
      · next hcloses =>
        have hangle : RestAt source (offset + byteLength run) (['<'] ++ rest) := hrest
        have hpos : 0 < byteLength ['<'] := by decide
        rw [templateContent?_cons (by simpa using hcloses), map_contentEnd_inFront]
        exact hmore (by omega) hangle.append _
    · rw [templateEnd?, tail_eq h]
      simp only [bind, Except.bind]
      rw [find?_singleton_none hangle, templateContent?_eq_none hangle]
      rfl

/-- The blocks with the tag of templates are the templates. -/
theorem ofTag_eq_template_iff {name : List Char} :
    BlockKind.ofTag (String.ofList name) = .template ↔ name = "template".toList := by
  constructor
  · intro h
    have htag := congrArg BlockKind.tag h
    rw [BlockKind.tag_ofTag] at htag
    rw [← String.toList_ofList (l := name), htag]
    rfl
  · rintro rfl
    rfl

theorem contentEnd?_eq (h : RestAt source offset cs) (name : List Char) :
    contentEnd? source name offset = .ok ((content? name cs).map (contentEnd offset)) := by
  unfold contentEnd? content?
  simp only [ofTag_eq_template_iff]
  split
  · exact templateEnd?_eq h 0
  · rw [tail_eq h]
    simp only [bind, Except.bind]
    rw [find?_eq_splitOnce?, Option.map_map]
    rfl

/-! ### Blocks -/

/-- What has been read up to an offset behind `start`, and the document by then. -/
structure PieceRead (source : List Char) (start : Nat) (read : Document × Nat × List Char)
    (found : Document × Nat) : Prop where
  lt : start < read.2.1
  same : found = (read.1, read.2.1)
  rest : RestAt source read.2.1 read.2.2

theorem span_of_store {document : Document} {block : Block} {e : ParseError}
    (h : store document block = .error e) : e.span = block.span := by
  unfold store at h
  dsimp only at h
  split at h
  · split at h
    · cases h; rfl
    · cases h
  · split at h
    · cases h; rfl
    · cases h
  · cases h

theorem agree_store {block : Block} {parts : List Char × List Char × List Char} (deindent : Bool)
    (document : Document) (h : block.span.cut? source = some parts) :
    Agree source Eq (store document (prepared deindent block))
      ((store document (prepared deindent block)).mapError Halt.error) := by
  have hspan : (prepared deindent block).span = block.span := by cases deindent <;> rfl
  cases hstore : store document (prepared deindent block) with
  | ok _ => exact .ok rfl
  | error e =>
    rw [← hspan, ← span_of_store hstore] at h
    exact .error h

/-- A block is stored, and reading goes on behind it. -/
theorem agree_storeBlock (hsize : byteLength source < UInt32.size) {after : List Char}
    (tag : OpenTag) (content : List Char) (hstart : RestAt source start front)
    (hcontent : RestAt source tag.stop (content ++ after)) (hrest : RestAt source stop rest)
    (hlt : start < stop) (deindent : Bool) (document : Document) :
    Agree source (PieceRead source start)
      (do
        let document ← store document (prepared deindent
          { kind := .ofTag (String.ofList tag.name)
            content := String.ofList content
            attributes := tag.attributes
            span := ⟨start, stop⟩
            contentSpan := ⟨tag.stop, tag.stop + byteLength content⟩ })
        .ok (document, stop, rest))
      (storeBlock source deindent document start tag ⟨tag.stop, tag.stop + byteLength content⟩
        stop) := by
  have hstop := hrest.size
  obtain ⟨_, _, hcut⟩ := Span.exists_cut?_of_le hstart hrest (Nat.le_of_lt hlt)
  rw [storeBlock, slice_front hcontent, span32_eq hsize (Nat.le_of_lt hlt) (by omega),
    Except.ok_bind]
  apply Agree.bind
  · exact agree_store deindent document hcut
  · rintro document _ rfl
    exact .ok ⟨hlt, rfl, hrest⟩

/-- What is read behind a header is stored, and reading goes on behind the block. -/
theorem agree_readBlock (hsize : byteLength source < UInt32.size) {name : List Char}
    {header : Header} {tag : OpenTag} (hname : Token.IsName name)
    (hstart : RestAt source start front)
    (hheader : HeaderRead source start name [] header tag) (deindent : Bool)
    (document : Document) :
    Agree source (PieceRead source start)
      (do
        let (block, rest) ← blockOf start name header
        let document ← store document (prepared deindent block)
        .ok (document, block.span.stop, rest))
      (readBlock source deindent document start tag) := by
  obtain ⟨hlt, rfl, hrest⟩ := hheader
  have hstop := hrest.size
  unfold blockOf readBlock
  dsimp only
  split
  · rw [span32_eq hsize (Nat.le_refl _) (by omega)]
    exact agree_storeBlock hsize ⟨name, header.attributes, header.isEmpty, header.stop⟩ [] hstart
      hrest hrest hlt deindent document
  · rw [contentEnd?_eq hrest]
    cases hcontent : content? name header.rest with
    | none =>
      simp only [bind, Except.bind, Option.map_none]
      rw [span32_eq hsize (Nat.le_of_lt hlt) (by omega)]
      obtain ⟨_, _, hcut⟩ := Span.exists_cut?_of_le hstart hrest (Nat.le_of_lt hlt)
      exact .error hcut
    | some found =>
      obtain ⟨content, rest⟩ := found
      obtain ⟨hsplit, -⟩ := (content?_eq_some_iff (not_mem_of_isName hname)).mp hcontent
      rw [hsplit, List.append_assoc] at hrest
      have hbehind := hrest.append.append
      have hsource := hbehind.size
      have hclosing : byteLength (closingTag name) = byteLength name + 3 := by
        have hopen : byteLength ['<', '/'] = 2 := rfl
        have hend : byteLength ['>'] = 1 := rfl
        rw [closingTag, byteLength_append, byteLength_append]
        omega
      simp only [bind, Except.bind, Option.map_some, contentEnd]
      rw [span32_eq hsize (by omega) (by omega), Nat.add_assoc _ _ 3, ← hclosing]
      exact agree_storeBlock hsize ⟨name, header.attributes, header.isEmpty, header.stop⟩ content
        hstart hrest hbehind (by omega) deindent document

/-! ### Whole documents -/

section

variable (hsize : byteLength source < UInt32.size) (deindent : Bool) (document : Document)

include hsize

theorem agree_comment {body : List Char}
    (h : RestAt source start ('<' :: (['!', '-', '-'] ++ body))) :
    Agree source (PieceRead source start)
      (match splitOnce? ['-', '-', '>'] body with
      | none => .error ⟨.unexpectedEnd .commentEnd,
          ⟨start, start + 1 + byteLength (['!', '-', '-'] ++ body)⟩⟩
      | some (comment, rest) => .ok (document, start + 4 + byteLength comment + 3, rest))
      (readPiece source deindent document start) := by
  have hnext : Token.next? start ('<' :: (['!', '-', '-'] ++ body)) =
      some (⟨.commentOpen, ['<', '!', '-', '-'], ⟨start, start + 4⟩⟩, body) :=
    Token.next?_append Token.isGap_nil .commentOpen
  obtain ⟨-, hbody, -, -⟩ := restAt_of_next? h hnext
  have hsource := h.size
  rw [byteLength_angle, ← Nat.add_assoc] at hsource
  rw [readPiece, next_of_some hsize h hnext, Except.ok_bind]
  dsimp only [Mark.ofToken] at hbody ⊢
  rw [tail_eq hbody, Except.ok_bind, find?_eq_splitOnce?]
  cases hsplit : splitOnce? ['-', '-', '>'] body with
  | none =>
    rw [hsource]
    dsimp only [Option.map_none]
    rw [span32_eq hsize (by omega) (Nat.le_refl _)]
    obtain ⟨_, _, hcut⟩ := Span.exists_cut?_of_le h h.nil (by omega)
    exact .error hcut
  | some found =>
    obtain ⟨comment, rest⟩ := found
    obtain ⟨rfl, -⟩ := (Text.splitOnce?_eq_some_iff (by simp)).mp hsplit
    rw [List.append_assoc] at hbody
    refine .ok ⟨?_, rfl, hbody.append.append⟩
    dsimp only
    omega

theorem agree_closing {inner : List Char} (h : RestAt source start ('<' :: '/' :: inner)) :
    Agree source (PieceRead source start)
      (match splitOnce? ['>'] inner with
      | none => .ok (document, start + 1 + byteLength ('/' :: inner), [])
      | some (body, rest) => .ok (document, start + 2 + byteLength body + 1, rest))
      (readPiece source deindent document start) := by
  have hnext : Token.next? start ('<' :: '/' :: inner) =
      some (⟨.closingOpen, ['<', '/'], ⟨start, start + 2⟩⟩, inner) :=
    Token.next?_append Token.isGap_nil .closingOpen
  have hsource := h.size
  rw [byteLength_angle, ← Nat.add_assoc] at hsource
  rw [readPiece, next_of_some hsize h hnext, Except.ok_bind]
  dsimp only [Mark.ofToken]
  rw [tail_eq h, Except.ok_bind]
  by_cases hend : '>' ∈ inner
  · obtain ⟨body, rest, rfl, hbody⟩ := List.eq_append_cons_of_mem hend
    have hfront : '>' ∉ ['<', '/'] ++ body := by simp [hbody]
    have hfound :
        find? ['>'] ('<' :: '/' :: (body ++ '>' :: rest)) = some (2 + byteLength body) := by
      rw [show '<' :: '/' :: (body ++ '>' :: rest) = ['<', '/'] ++ body ++ '>' :: rest from rfl,
        find?_singleton hfront, byteLength_append]
      rfl
    have hrest : RestAt source start (['<', '/'] ++ body ++ ['>'] ++ rest) := by simpa using h
    have hbehind := hrest.append
    rw [byteLength_closing] at hbehind
    rw [splitOnce?_singleton.mpr ⟨rfl, hbody⟩, hfound]
    dsimp only
    rw [Nat.add_assoc start 2, Nat.add_assoc start]
    exact .ok ⟨Nat.lt_add_of_pos_right (Nat.succ_pos _), rfl, hbehind⟩
  · have hnone : '>' ∉ '<' :: '/' :: inner := by simp [hend]
    rw [splitOnce?_singleton_none.mpr hend, find?_singleton_none hnone, hsource]
    refine .ok ⟨?_, rfl, h.nil⟩
    dsimp only
    omega

theorem agree_tag (h : RestAt source start ('<' :: cs)) (hcomment : ¬ ['!', '-', '-'] <+: cs)
    (hclosing : ¬ ['/'] <+: cs) :
    Agree source (PieceRead source start)
      (if cs.takeWhile Token.isNameChar = [] then .ok (document, start + 1, cs)
      else do
        let (block, rest) ←
          Document.readBlock start (cs.takeWhile Token.isNameChar) (cs.dropWhile Token.isNameChar)
        let document ← store document (prepared deindent block)
        .ok (document, block.span.stop, rest))
      (readPiece source deindent document start) := by
  have hnext : Token.next? start ('<' :: cs) =
      some (⟨.tagOpen, ['<'], ⟨start, start + 1⟩⟩, cs) :=
    Token.next?_append Token.isGap_nil (.tagOpen hcomment hclosing)
  obtain ⟨-, hbehind, -, -⟩ := restAt_of_next? h hnext
  rw [readPiece, next_of_some hsize h hnext, Except.ok_bind]
  dsimp only [Mark.ofToken] at hbehind ⊢
  split
  · next hnone =>
    rw [openTag?_of_endsName hsize hbehind (Token.takeWhile_name_eq_nil_iff.mp hnone),
      Except.ok_bind]
    exact .ok ⟨Nat.lt_succ_self start, rfl, hbehind⟩
  · next hsome =>
    have hname := Token.isName_takeWhile hsome
    have hends := Token.endsName_dropWhile cs
    have hsplit : cs.takeWhile Token.isNameChar ++ cs.dropWhile Token.isNameChar = cs :=
      List.takeWhile_append_dropWhile
    generalize cs.takeWhile Token.isNameChar = name at *
    generalize cs.dropWhile Token.isNameChar = rest at *
    rw [← hsplit] at hbehind
    rw [readBlock_eq, bind_assoc]
    apply Agree.bind (agree_openTag? hsize h hbehind hname hends)
    rintro header _ ⟨tag, rfl, hheader⟩
    exact agree_readBlock hsize hname h hheader deindent document

theorem agree_readPiece (h : RestAt source start ('<' :: cs)) :
    Agree source (PieceRead source start)
      (Document.readPiece (prepared deindent) document start cs)
      (readPiece source deindent document start) := by
  unfold Document.readPiece
  split
  · next body hcomment =>
    obtain rfl := Text.after?_eq_some_iff.mp hcomment
    exact agree_comment hsize deindent document h
  · next hcomment =>
    split
    · next inner hclosing =>
      obtain rfl := Text.after?_eq_some_iff.mp hclosing
      exact agree_closing hsize deindent document h
    · next hclosing =>
      rw [Text.after?_eq_none_iff] at hcomment hclosing
      exact agree_tag hsize deindent document h hcomment hclosing

end

theorem agree_readBlocks (hsize : byteLength source < UInt32.size) (h : RestAt source offset cs)
    (deindent : Bool) (document : Document) :
    Agree source Eq (Document.readBlocks (prepared deindent) document offset cs)
      (readBlocks source deindent document offset) := by
  induction hn : byteLength source - offset using Nat.strong_induction_on
    generalizing offset cs document with
  | h n ih =>
    rw [readBlocks, tail_eq h, Except.ok_bind]
    by_cases hangle : '<' ∈ cs
    · obtain ⟨run, rest, rfl, hrun⟩ := List.eq_append_cons_of_mem hangle
      have hrest := h.append
      rw [find?_singleton hrun, readBlocks_text hrun, readBlocks_eq_readPiece]
      apply Agree.bind (agree_readPiece hsize deindent document hrest)
      rintro ⟨document, stop, after⟩ _ ⟨hlt, rfl, hafter⟩
      have hstop := hafter.size
      dsimp only at hlt hafter hstop ⊢
      rw [dif_pos ⟨by omega, by omega⟩]
      exact ih _ (by omega) hafter document rfl
    · rw [find?_singleton_none hangle, readBlocks_of_not_mem hangle]
      exact .ok rfl

end Addressed

variable {source : String} {deindent : Bool}

theorem agree_parse (hsize : source.utf8ByteSize < UInt32.size) (deindent : Bool) :
    Addressed.Agree source.toList Eq (parse source deindent) (Addressed.parse source deindent) := by
  rw [← Text.byteLength_toList] at hsize
  exact Addressed.agree_readBlocks hsize (Text.restAt_zero _) deindent {}

/-- Reading a source by offsets does what reading it from its text does. -/
theorem parse_addressed (hsize : source.utf8ByteSize < UInt32.size) :
    Addressed.parse source deindent = (parse source deindent).mapError Addressed.Halt.error := by
  have hagree := agree_parse hsize deindent
  generalize parse source deindent = result at hagree ⊢
  generalize Addressed.parse source deindent = result' at hagree ⊢
  cases hagree with
  | ok heq => rw [heq]; rfl
  | error => rfl

/-- An error is about a part of the source. -/
theorem exists_slice?_of_parse_error {error : ParseError}
    (hsize : source.utf8ByteSize < UInt32.size) (h : parse source deindent = .error error) :
    ∃ part, error.span.slice? source = some part := by
  have hagree := agree_parse hsize deindent
  rw [h] at hagree
  generalize Addressed.parse source deindent = result at hagree
  cases hagree with
  | error hcut => exact ⟨_, by rw [Span.slice?, hcut]; rfl⟩

end SfcWeave.Document
