import SfcWeave.Proofs.Document.Deindent
import SfcWeave.Proofs.Text.Span

/-!
# Where contents and attributes stand

A block says where its content stands in the source it was read from. What stands there is the
content as it was written; the block holds it without its common indentation
(`exists_slice?_contentSpan`). In front of the content is the header of the block, and its
attributes stand in it one after the other, each with its name first (`hasHeader_of_parse`).
-/

namespace SfcWeave.Document

open Text (byteLength byteLength_append byteLength_toList)

variable {source : String} {document : Document} {block : Block} {blocks : List Block}
  {offset : Nat} {cs text front part : List Char} {span : Span}

/-! ### Parts of a text -/

/-- A part of a text stands under a span, where the text stands at an offset. -/
def StandsIn (offset : Nat) (text : List Char) (span : Span) (part : List Char) : Prop :=
  ∃ before after, text = before ++ part ++ after ∧
    span = ⟨offset + byteLength before, offset + byteLength (before ++ part)⟩

namespace StandsIn

/-- What stands in a text stands in it when something is put in front. -/
theorem append_left (h : StandsIn (offset + byteLength front) text span part) :
    StandsIn offset (front ++ text) span part := by
  obtain ⟨before, after, rfl, rfl⟩ := h
  refine ⟨front ++ before, after, by simp only [List.append_assoc], ?_⟩
  rw [byteLength_append front before, List.append_assoc, byteLength_append front]
  simp only [Nat.add_assoc]

theorem append_right (h : StandsIn offset text span part) (back : List Char) :
    StandsIn offset (text ++ back) span part := by
  obtain ⟨before, after, rfl, hspan⟩ := h
  exact ⟨before, after ++ back, by simp only [List.append_assoc], hspan⟩

theorem bounds (h : StandsIn offset text span part) :
    offset ≤ span.start ∧ span.stop ≤ offset + byteLength text := by
  obtain ⟨before, after, rfl, rfl⟩ := h
  simp [byteLength_append]

/-- What stands in the characters of a text is a part of the text. -/
theorem slice? (h : StandsIn 0 source.toList span part) :
    span.slice? source = some (String.ofList part) := by
  obtain ⟨before, after, htext, hspan⟩ := h
  have hcut : span.cut? source.toList = some (before, part, after) :=
    Span.cut?_eq_some_iff.mpr ⟨htext, by rw [hspan, Nat.zero_add, Nat.zero_add]⟩
  rw [Span.slice?, hcut]
  rfl

end StandsIn

/-- A block stands somewhere in a text, which stands at an offset. -/
def HoldsBlock (offset : Nat) (text : List Char) (block : Block) : Prop :=
  ∃ front inner back, text = front ++ inner ++ back ∧
    BlockText (offset + byteLength front) inner block

theorem HoldsBlock.append_left (h : HoldsBlock (offset + byteLength front) text block) :
    HoldsBlock offset (front ++ text) block := by
  obtain ⟨before, inner, back, rfl, hblock⟩ := h
  refine ⟨front ++ before, inner, back, by simp only [List.append_assoc], ?_⟩
  rwa [byteLength_append, ← Nat.add_assoc]

/-- The blocks of a text stand in it. -/
theorem holdsBlock_of_segmented (h : Segmented offset cs blocks) (hmem : block ∈ blocks) :
    HoldsBlock offset cs block := by
  induction h with
  | done | unfinishedClosing => cases hmem
  | text _ _ _ _ ih => exact (ih hmem).append_left
  | comment _ _ ih => exact (ih hmem).append_left
  | closing _ _ ih => exact (ih hmem).append_left
  | @angle offset rest blocks _ _ _ _ ih =>
    have hrest : HoldsBlock offset (['<'] ++ rest) block := (ih hmem).append_left
    exact hrest
  | @block offset text _ rest _ hblock _ ih =>
    rcases List.mem_cons.mp hmem with rfl | hmem
    · exact ⟨[], text, rest, rfl, hblock⟩
    · exact (ih hmem).append_left

/-- The blocks of a document stand in its source; what is done with them before they are stored does
not change their kinds, their attributes and their spans. -/
theorem exists_holdsBlock_of_parse {deindent : Bool} (h : parse source deindent = .ok document)
    (hmem : block ∈ document.toList) :
    ∃ written, HoldsBlock 0 source.toList written ∧ prepared deindent written = block := by
  obtain ⟨blocks, hsegmented, hgathers⟩ := parse_eq_ok_iff.mp h
  obtain ⟨written, hwritten, rfl⟩ := List.mem_map.mp ((mem_toList_iff hgathers).mp hmem)
  exact ⟨written, holdsBlock_of_segmented hsegmented hwritten, rfl⟩

/-! ### Contents -/

/-- The content of a block stands in a text at an offset, at the place that the block says. -/
def HasContentAt (offset : Nat) (text : List Char) (block : Block) : Prop :=
  ∃ before after, text = before ++ block.content.toList ++ after ∧
    block.contentSpan =
      ⟨offset + byteLength before, offset + byteLength (before ++ block.content.toList)⟩

theorem hasContentAt_of_blockText (h : BlockText offset text block) :
    HasContentAt offset text block := by
  cases h with
  | @closed tag header =>
    refine ⟨'<' :: tag ++ header, closingTag tag, ?_, ?_⟩
    · simp only [String.toList_ofList]
    · simp only [String.toList_ofList]
  | @empty tag header => exact ⟨'<' :: tag ++ header, [], by simp, by simp [Span.empty]⟩

/-- The content of a block as it was written, and as the block holds it. -/
theorem exists_slice?_contentSpan (h : parse source = .ok document)
    (hmem : block ∈ document.toList) :
    ∃ raw, block.contentSpan.slice? source = some raw ∧ block.content = Text.deindent raw := by
  obtain ⟨written, ⟨front, text, back, htext, hblock⟩, rfl⟩ := exists_holdsBlock_of_parse h hmem
  have hinner : StandsIn _ text written.contentSpan _ := hasContentAt_of_blockText hblock
  have hcontent := hinner.append_left.append_right back
  rw [← htext] at hcontent
  have hslice := hcontent.slice?
  rw [String.ofList_toList] at hslice
  exact ⟨written.content, hslice, rfl⟩

/-! ### Attributes -/

/-- Attributes stand in a text one after the other, each with its name first. -/
structure StandInOrder (offset : Nat) (text : List Char) (attributes : List Attribute) : Prop where
  standsIn : ∀ a ∈ attributes, ∃ more, StandsIn offset text a.span (a.name.toList ++ more)
  ordered : attributes.Pairwise fun a b => a.span.stop ≤ b.span.start

namespace StandInOrder

variable {a : Attribute} {attributes : List Attribute}

theorem append_left (h : StandInOrder (offset + byteLength front) text attributes) :
    StandInOrder offset (front ++ text) attributes := by
  obtain ⟨hstand, hordered⟩ := h
  refine ⟨?_, hordered⟩
  intro a ha
  obtain ⟨more, hmore⟩ := hstand a ha
  exact ⟨more, hmore.append_left⟩

theorem append_right (h : StandInOrder offset text attributes) (back : List Char) :
    StandInOrder offset (text ++ back) attributes := by
  obtain ⟨hstand, hordered⟩ := h
  refine ⟨?_, hordered⟩
  intro a ha
  obtain ⟨more, hmore⟩ := hstand a ha
  exact ⟨more, hmore.append_right back⟩

/-- An attribute in front of others. -/
theorem cons {more : List Char} (hfirst : StandsIn offset front a.span (a.name.toList ++ more))
    (h : StandInOrder (offset + byteLength front) text attributes) :
    StandInOrder offset (front ++ text) (a :: attributes) := by
  obtain ⟨hstand, hordered⟩ := h.append_left
  refine ⟨?_, List.pairwise_cons.mpr ⟨?_, hordered⟩⟩
  · exact List.forall_mem_cons.mpr ⟨⟨more, hfirst.append_right text⟩, hstand⟩
  · intro b hb
    obtain ⟨_, hb⟩ := h.standsIn b hb
    exact Nat.le_trans hfirst.bounds.2 hb.bounds.1

end StandInOrder

/-- An attribute is written with its name first. -/
theorem standsIn_of_attributeText {a : Attribute} {written rest : List Char}
    (h : AttributeText offset written a rest) :
    ∃ more, StandsIn offset written a.span (a.name.toList ++ more) := by
  cases h with
  | bare => exact ⟨[], [], [], by simp, by simp⟩
  | @valued name before between value =>
    refine ⟨before ++ '=' :: between ++ value, [], [], by simp, ?_⟩
    simp [List.append_assoc]

/-- In front of the `>` that ends a header stand its attributes. -/
theorem standInOrder_of_headerText {attributes : List Attribute} {isEmpty : Bool}
    (h : HeaderText offset text attributes isEmpty) :
    ∃ front, text = front ++ ['>'] ∧ StandInOrder offset front attributes := by
  induction h with
  | @tagEnd _ gap => exact ⟨gap, rfl, by simp, .nil⟩
  | @emptyEnd _ gap => exact ⟨gap ++ ['/'], by simp, by simp, .nil⟩
  | @slash _ gap _ _ _ _ _ _ ih =>
    obtain ⟨front, rfl, horder⟩ := ih
    exact ⟨gap ++ ['/'] ++ front, by simp, horder.append_left⟩
  | @named _ gap written _ _ _ _ _ ha _ ih =>
    obtain ⟨front, rfl, horder⟩ := ih
    obtain ⟨more, hmore⟩ := standsIn_of_attributeText ha
    exact ⟨gap ++ written ++ front, by simp, .cons hmore.append_left horder⟩

/-- In front of the content of a block is its header in the source. The attributes stand in it
behind the tag, one after the other, each with its name first. -/
structure HasHeader (source : String) (block : Block) : Prop where
  header : ∃ inner, (⟨block.span.start, block.contentSpan.start⟩ : Span).slice? source =
    some ("<" ++ block.kind.tag ++ inner ++ ">")
  inside : ∀ a ∈ block.attributes,
    block.span.start + ("<" ++ block.kind.tag).utf8ByteSize ≤ a.span.start ∧
      a.span.stop < block.contentSpan.start
  ordered : block.attributes.Pairwise fun a b => a.span.stop ≤ b.span.start
  named : ∀ a ∈ block.attributes, ∃ more, a.span.slice? source = some (a.name ++ more)

/-- What a block starts with. -/
theorem exists_header_of_blockText (h : BlockText offset text block) :
    ∃ tag inner after, text = '<' :: tag ++ inner ++ ['>'] ++ after ∧
      block.kind = .ofTag (String.ofList tag) ∧ block.span.start = offset ∧
      block.contentSpan.start = offset + byteLength ('<' :: tag ++ inner ++ ['>']) ∧
      StandInOrder (offset + byteLength ('<' :: tag)) inner block.attributes := by
  cases h with
  | @closed tag _ _ content _ _ _ hheader =>
    obtain ⟨inner, rfl, horder⟩ := standInOrder_of_headerText hheader
    exact ⟨tag, inner, content ++ closingTag tag, by simp, rfl, rfl, by simp, horder⟩
  | @empty tag _ _ _ _ _ hheader =>
    obtain ⟨inner, rfl, horder⟩ := standInOrder_of_headerText hheader
    exact ⟨tag, inner, [], by simp, rfl, rfl, by simp [Span.empty], horder⟩

theorem HasHeader.prepared (h : HasHeader source block) (deindent : Bool) :
    HasHeader source (prepared deindent block) := by
  cases deindent with
  | false => exact h
  | true => exact ⟨h.header, h.inside, h.ordered, h.named⟩

/-- The blocks of a document have their headers in the source. -/
theorem hasHeader_of_parse {deindent : Bool} (h : parse source deindent = .ok document)
    (hmem : block ∈ document.toList) : HasHeader source block := by
  obtain ⟨written, ⟨front, _, back, htext, hblock⟩, rfl⟩ := exists_holdsBlock_of_parse h hmem
  obtain ⟨tag, inner, after, rfl, hkind, hstart, hstop, horder⟩ :=
    exists_header_of_blockText hblock
  rw [Nat.zero_add] at hstart hstop horder
  have htag : written.kind.tag = String.ofList tag := by rw [hkind, BlockKind.tag_ofTag]
  have hsize : ("<" ++ written.kind.tag).utf8ByteSize = byteLength ('<' :: tag) := by
    rw [htag, ← byteLength_toList]
    simp
  apply HasHeader.prepared
  constructor
  · have hheader : StandsIn 0 source.toList ⟨written.span.start, written.contentSpan.start⟩
        ('<' :: tag ++ inner ++ ['>']) :=
      ⟨front, after ++ back, by simp [htext], by simp [hstart, hstop]⟩
    refine ⟨String.ofList inner, ?_⟩
    rw [hheader.slice?, htag, String.ofList_append, String.ofList_append, String.ofList_cons]
    rfl
  · intro a ha
    obtain ⟨more, hmore⟩ := horder.standsIn a ha
    obtain ⟨hfirst, hlast⟩ := hmore.bounds
    rw [hsize, hstart, hstop]
    have hend : byteLength ['>'] = 1 := rfl
    simp only [byteLength_append]
    omega
  · exact horder.ordered
  · intro a ha
    obtain ⟨more, hmore⟩ := horder.standsIn a ha
    rw [← byteLength_append, ← Nat.zero_add (byteLength _)] at hmore
    have hname := hmore.append_left.append_right (['>'] ++ after ++ back)
    rw [show front ++ '<' :: tag ++ inner ++ (['>'] ++ after ++ back) = source.toList by
      simp [htext]] at hname
    refine ⟨String.ofList more, ?_⟩
    rw [hname.slice?, String.ofList_append, String.ofList_toList]

end SfcWeave.Document
