import Mathlib.Tactic.MkIffOfInductiveProp
import SfcWeave.Document.Printer
import SfcWeave.Proofs.Document.Segmentation

/-!
# Printing and reading are inverse

A document can be printed if all of it stands in the printed text the way the grammar wants it:
names are names, no value holds both quotes, and no content ends before its block does. Such a
document is read again as it was, but for the spans, for attributes that are switched off and for
empty values (`Document.asRead`). Nothing else can be said to be lost, since every document that
is read is printable, and already in the form in which it is read:

    print_parse_inverse : (document.IsPrintable →
        ∃ read, parse document.print = read ∧ read.withoutSpans = document.asRead.withoutSpans) ∧
      (parse source = document → document.IsPrintable ∧ document.asRead = document)

The grammar is where both meet: `segmented_print` derives the printed text, and
`isPrintable_of_segmented` inverts the derivation of a text that was read.
-/

namespace SfcWeave

open Text (byteLength)
open Token (IsName EndsName)

/-! ### Printable documents -/

/-- Some quote can stand around the value. -/
def AttributeValue.IsPrintable : AttributeValue → Prop
  | .text value => ¬ ('"' ∈ value.toList ∧ '\'' ∈ value.toList)
  | .flag _ => True

instance : DecidablePred AttributeValue.IsPrintable
  | .text _ => inferInstanceAs (Decidable (¬ _))
  | .flag _ => .isTrue trivial

namespace Attribute

@[mk_iff]
structure IsPrintable (a : Attribute) : Prop where
  name : IsName a.name.toList
  value : a.value.IsPrintable

instance (a : Attribute) : Decidable a.IsPrintable := decidable_of_iff' _ a.isPrintable_iff

/-- The attribute as it is read: one that is switched off is not written, and an empty value
counts as none. -/
def asRead? (a : Attribute) : Option Attribute :=
  match a.value with
  | .flag false => none
  | .flag true => some a
  | .text text => some { a with value := Document.attributeValue text.toList }

def withoutSpan (a : Attribute) : Attribute := { a with span := ⟨0, 0⟩ }

end Attribute

/-- The tag of a custom block is a name, does not start a comment, and is not taken. -/
def BlockKind.IsPrintable : BlockKind → Prop
  | .custom tag => IsName tag.toList ∧ ¬ ['!', '-', '-'] <+: tag.toList ∧
      tag ∉ ["template", "script", "style"]
  | _ => True

instance : DecidablePred BlockKind.IsPrintable
  | .custom _ => inferInstanceAs (Decidable (_ ∧ _))
  | .template | .script | .style => .isTrue trivial

namespace Block

@[mk_iff]
structure IsPrintable (block : Block) : Prop where
  kind : block.kind.IsPrintable
  attributes : ∀ a ∈ block.attributes, a.IsPrintable
  content : Document.IsContent block.kind.tag.toList block.content.toList

instance (block : Block) : Decidable block.IsPrintable :=
  decidable_of_iff' _ block.isPrintable_iff

/-- The block with its attributes as they are read. -/
def asRead (block : Block) : Block :=
  { block with attributes := block.attributes.filterMap Attribute.asRead? }

def withoutSpans (block : Block) : Block :=
  { block with
    attributes := block.attributes.map Attribute.withoutSpan
    span := ⟨0, 0⟩
    contentSpan := ⟨0, 0⟩ }

@[simp] theorem asRead_kind (block : Block) : block.asRead.kind = block.kind := rfl

@[simp] theorem withoutSpans_kind (block : Block) : block.withoutSpans.kind = block.kind := rfl

end Block

namespace Document

/-- Every block is printable, and stands in its place. -/
@[mk_iff]
structure IsPrintable (document : Document) : Prop where
  inPlace : document.InPlace
  blocks : ∀ block ∈ document.toList, block.IsPrintable

instance (document : Document) : Decidable document.IsPrintable :=
  decidable_of_iff' _ document.isPrintable_iff

/-- The document with its attributes as they are read. -/
def asRead (document : Document) : Document := document.map Block.asRead

/-- What of a document does not depend on the text it was read from. -/
def withoutSpans (document : Document) : Document := document.map Block.withoutSpans

variable {offset : Nat} {a : Attribute} {attributes : List Attribute} {block : Block}
  {blocks : List Block} {document : Document} {rest tag text written : List Char}
  {value : AttributeValue} {isEmpty : Bool}

/-- Whether a document can be printed does not depend on spans. -/
theorem isPrintable_withoutSpans_iff :
    document.withoutSpans.IsPrintable ↔ document.IsPrintable := by
  have hattribute : ∀ a : Attribute, a.withoutSpan.IsPrintable ↔ a.IsPrintable := by
    intro a
    rw [Attribute.isPrintable_iff, Attribute.isPrintable_iff]
    rfl
  have hblock : ∀ block : Block, block.withoutSpans.IsPrintable ↔ block.IsPrintable := by
    intro block
    rw [Block.isPrintable_iff, Block.isPrintable_iff]
    simp [Block.withoutSpans, hattribute]
  rw [isPrintable_iff, isPrintable_iff, withoutSpans, toList_map, List.forall_mem_map,
    inPlace_map_iff Block.withoutSpans_kind]
  simp only [hblock]

/-! ### The grammar of what is printed -/

/-- A value is printed between quotes that it does not hold. -/
theorem exists_quote {value : String} (h : ¬ ('"' ∈ value.toList ∧ '\'' ∈ value.toList)) :
    ∃ quote, (quote = '"' ∨ quote = '\'') ∧ quote ∉ value.toList ∧
      ∀ name span, (Attribute.print ⟨name, .text value, span⟩).toList =
        ' ' :: (name.toList ++ [] ++ '=' :: [] ++ (quote :: value.toList ++ [quote])) := by
  by_cases hdouble : '"' ∈ value.toList
  · have hsingle : '\'' ∉ value.toList := fun hsingle => h ⟨hdouble, hsingle⟩
    refine ⟨'\'', .inr rfl, hsingle, ?_⟩
    intro name span
    simp [Attribute.print, hdouble, hsingle]
  · refine ⟨'"', .inl rfl, hdouble, ?_⟩
    intro name span
    simp [Attribute.print, hdouble]

/-- A printed attribute stands in the text after a blank, unless it is switched off. -/
theorem attributeText_print (h : a.IsPrintable) (hends : EndsName rest) (offset : Nat) :
    (a.print.toList = [] ∧ a.asRead? = none) ∨
    ∃ written read kept, a.print.toList = ' ' :: written ∧ a.asRead? = some kept ∧
      AttributeText offset written read rest ∧ read.withoutSpan = kept.withoutSpan := by
  obtain ⟨hname, hvalue⟩ := h
  obtain ⟨name, value, span⟩ := a
  cases value with
  | flag on =>
    cases on with
    | false => exact .inl ⟨rfl, rfl⟩
    | true =>
      refine .inr ⟨name.toList, _, _, ?_, rfl, .bare hname hends, ?_⟩
      · simp [Attribute.print]
      · simp [Attribute.withoutSpan]
  | text value =>
    obtain ⟨quote, hquote, hnot, hprint⟩ := exists_quote hvalue
    refine .inr ⟨_, _, _, hprint name span, rfl,
      .valued hname Token.isGap_nil Token.isGap_nil (.quoted hquote hnot), ?_⟩
    simp [Attribute.withoutSpan]

/-- The printed attributes of a block are a header, and the tag in front of them ends there. -/
theorem headerText_print (h : ∀ a ∈ attributes, a.IsPrintable) (offset : Nat) :
    ∃ text read, (String.join (attributes.map Attribute.print)).toList ++ ['>'] = text ∧
      EndsName text ∧ HeaderText offset text read false ∧
      read.map Attribute.withoutSpan =
        (attributes.filterMap Attribute.asRead?).map Attribute.withoutSpan := by
  have hblank : Token.IsGap [' '] := by simp [Token.IsGap, Token.isSeparator]
  induction attributes generalizing offset with
  | nil =>
    refine ⟨['>'], [], rfl, Token.endsName_cons.mpr (by decide), ?_, rfl⟩
    exact .tagEnd Token.isGap_nil
  | cons a attributes ih =>
    have hmore := ih fun a ha => h a (List.mem_cons_of_mem _ ha)
    rw [List.map_cons, String.join_cons, String.toList_append, List.append_assoc]
    obtain ⟨rest, _, hrest, hends, -, -⟩ := hmore 0
    -- the text of the attributes that follow does not depend on where they stand
    rcases attributeText_print (h a List.mem_cons_self) hends (offset + byteLength [' ']) with
      ⟨hprint, hkept⟩ | ⟨written, first, kept, hprint, hkept, ha, hfirst⟩
    · rw [hprint, List.filterMap_cons_none hkept]
      exact hmore offset
    · obtain ⟨rest', read, hrest', -, hread, heq⟩ := hmore (offset + byteLength ([' '] ++ written))
      obtain rfl := hrest.symm.trans hrest'
      refine ⟨[' '] ++ written ++ rest, first :: read, ?_, ?_, .named hblank ha hread, ?_⟩
      · rw [hprint, hrest]
        rfl
      · exact Token.endsName_cons.mpr (by decide)
      · rw [List.filterMap_cons_some hkept, List.map_cons, List.map_cons, hfirst, heq]

/-- A printable tag is the tag of its kind, and a block can be read by it. -/
theorem ofTag_tag {kind : BlockKind} (h : kind.IsPrintable) :
    BlockKind.ofTag kind.tag = kind ∧ IsName kind.tag.toList ∧
      ¬ ['!', '-', '-'] <+: kind.tag.toList := by
  cases kind with
  | custom tag =>
    obtain ⟨hname, hcomment, htaken⟩ := h
    refine ⟨?_, hname, hcomment⟩
    simp only [List.mem_cons, List.not_mem_nil, or_false, not_or] at htaken
    simp [BlockKind.ofTag, BlockKind.tag, htaken]
  | template | script | style =>
    exact ⟨rfl, by decide, by decide⟩

theorem blockText_print (h : block.IsPrintable) (offset : Nat) :
    ∃ read, BlockText offset block.print.toList read ∧
      read.withoutSpans = block.asRead.withoutSpans := by
  obtain ⟨hkind, hattributes, hcontent⟩ := h
  obtain ⟨kind, content, attributes, span, contentSpan⟩ := block
  obtain ⟨hofTag, hname, hcomment⟩ := ofTag_tag hkind
  obtain ⟨header, read, htext, hends, hheader, heq⟩ :=
    headerText_print hattributes (offset + byteLength ('<' :: kind.tag.toList))
  have hblock := BlockText.closed hname hcomment hends hheader hcontent
  have hprint : (Block.print ⟨kind, content, attributes, span, contentSpan⟩).toList =
      '<' :: kind.tag.toList ++ header ++ content.toList ++ closingTag kind.tag.toList := by
    simp [Block.print, closingTag, ← htext]
  rw [hprint]
  refine ⟨_, hblock, ?_⟩
  simp [Block.withoutSpans, Block.asRead, heq, hofTag]

/-- The text of printed blocks starts with the header of the first one. -/
theorem head?_print (block : Block) (blocks : List Block) :
    ("\n".intercalate ((block :: blocks).map Block.print)).toList.head? = some '<' := by
  have hblock : block.print.toList.head? = some '<' := by simp [Block.print]
  cases blocks with
  | nil => simpa using hblock
  | cons next blocks => simp [String.intercalate_cons_cons, hblock]

/-- Blocks on lines of their own are segments. -/
theorem segmented_print (h : ∀ block ∈ blocks, block.IsPrintable) (offset : Nat) :
    ∃ read, Segmented offset ("\n".intercalate (blocks.map Block.print)).toList read ∧
      read.map Block.withoutSpans = (blocks.map Block.asRead).map Block.withoutSpans := by
  induction blocks generalizing offset with
  | nil => exact ⟨[], .done, rfl⟩
  | cons block blocks ih =>
    obtain ⟨first, hfirst, hsame⟩ := blockText_print (h block List.mem_cons_self) offset
    cases blocks with
    | nil =>
      refine ⟨[first], ?_, by simp [hsame]⟩
      have hsegments := Segmented.block hfirst .done
      simpa using hsegments
    | cons next blocks =>
      obtain ⟨read, hread, heq⟩ := ih (fun block hb => h block (List.mem_cons_of_mem _ hb))
        (offset + byteLength block.print.toList + byteLength ['\n'])
      refine ⟨first :: read, ?_, ?_⟩
      · rw [List.map_cons, List.map_cons, String.intercalate_cons_cons, String.toList_append,
          String.toList_append, List.append_assoc]
        apply Segmented.block hfirst
        -- the line feed is a run of text, which ends where the next block starts
        refine .text (by decide) (by decide) ?_ hread
        intro c hc
        exact (Option.some.inj ((head?_print next blocks).symm.trans hc)).symm
      · rw [List.map_cons, List.map_cons, List.map_cons, hsame, heq]

/-! ### What has been read is printable -/

/-- A value that has been read does not hold both quotes, and counts as what it is. -/
theorem isPrintable_of_valueText (h : ValueText written value rest) :
    value.IsPrintable ∧ (value = .flag true ∨ ∃ text : String, value = .text text ∧ text ≠ "") := by
  cases h with
  | @quoted quote text _ hquote hnot =>
    unfold attributeValue
    split
    · exact ⟨trivial, .inl rfl⟩
    · next hne =>
      refine ⟨?_, .inr ⟨_, rfl, by simpa [String.ofList_eq_empty_iff] using hne⟩⟩
      show ¬ ('"' ∈ (String.ofList text).toList ∧ '\'' ∈ (String.ofList text).toList)
      rw [String.toList_ofList]
      rintro ⟨hdouble, hsingle⟩
      rcases hquote with rfl | rfl
      · exact hnot hdouble
      · exact hnot hsingle
  | name hname _ =>
    refine ⟨?_, .inr ⟨_, rfl, by simpa [String.ofList_eq_empty_iff] using hname.1⟩⟩
    rintro ⟨hdouble, -⟩
    rw [String.toList_ofList] at hdouble
    obtain ⟨hne, -⟩ := Token.ne_of_isNameChar (hname.2 _ hdouble)
    exact hne rfl

theorem isPrintable_of_attributeText (h : AttributeText offset written a rest) :
    a.IsPrintable ∧ a.asRead? = some a := by
  cases h with
  | bare hname _ => exact ⟨⟨by simpa using hname, trivial⟩, rfl⟩
  | valued hname _ _ hvalue =>
    obtain ⟨hprintable, hread⟩ := isPrintable_of_valueText hvalue
    refine ⟨⟨by simpa using hname, hprintable⟩, ?_⟩
    rcases hread with rfl | ⟨text, rfl, hne⟩
    · rfl
    · simp [Attribute.asRead?, attributeValue, hne]

theorem isPrintable_of_headerText (h : HeaderText offset text attributes isEmpty) :
    (∀ a ∈ attributes, a.IsPrintable) ∧ attributes.filterMap Attribute.asRead? = attributes := by
  induction h with
  | tagEnd | emptyEnd => simp
  | slash _ _ _ ih => exact ih
  | named _ ha _ ih =>
    obtain ⟨hprintable, hread⟩ := isPrintable_of_attributeText ha
    constructor
    · rw [List.forall_mem_cons]
      exact ⟨hprintable, ih.1⟩
    · rw [List.filterMap_cons_some hread, ih.2]

theorem isPrintable_ofTag (hname : IsName tag) (hcomment : ¬ ['!', '-', '-'] <+: tag) :
    (BlockKind.ofTag (String.ofList tag)).IsPrintable := by
  unfold BlockKind.ofTag
  split
  · trivial
  · next htemplate =>
    split
    · trivial
    · next hscript =>
      split
      · trivial
      · next hstyle =>
        refine ⟨by simpa using hname, by simpa using hcomment, ?_⟩
        simp [htemplate, hscript, hstyle]

/-- No closing tag stands in an empty content, and nothing is left open there. -/
theorem isContent_nil (tag : List Char) : IsContent tag [] := by
  unfold IsContent
  split
  · exact nests_nil_iff.mpr rfl
  · simp [closingTag]

theorem isPrintable_of_blockText (h : BlockText offset text block) :
    block.IsPrintable ∧ block.asRead = block := by
  cases h with
  | closed hname hcomment _ hheader hcontent =>
    obtain ⟨hattributes, hread⟩ := isPrintable_of_headerText hheader
    refine ⟨⟨isPrintable_ofTag hname hcomment, hattributes, by simpa using hcontent⟩, ?_⟩
    simp [Block.asRead, hread]
  | empty hname hcomment _ hheader =>
    obtain ⟨hattributes, hread⟩ := isPrintable_of_headerText hheader
    refine ⟨⟨isPrintable_ofTag hname hcomment, hattributes, ?_⟩, ?_⟩
    · simpa using isContent_nil _
    · simp [Block.asRead, hread]

theorem isPrintable_of_segmented (h : Segmented offset text blocks) :
    ∀ block ∈ blocks, block.IsPrintable ∧ block.asRead = block := by
  induction h with
  | done | unfinishedClosing => simp
  | text _ _ _ _ ih | comment _ _ ih | closing _ _ ih | angle _ _ _ _ ih => exact ih
  | block hblock _ ih =>
    rw [List.forall_mem_cons]
    exact ⟨isPrintable_of_blockText hblock, ih⟩

/-! ### Both ways -/

theorem parse_print (h : document.IsPrintable) :
    ∃ read, parse document.print false = .ok read ∧
      read.withoutSpans = document.asRead.withoutSpans := by
  obtain ⟨blocks, hblocks, hsame⟩ := segmented_print h.blocks 0
  -- up to spans the blocks that are read are those of the document, and so gather to it
  have hgathers := gathers_map Block.withoutSpans_kind
    (gathers_map Block.asRead_kind (gathers_toList h.inPlace))
  rw [← hsame, gathers_map_iff Block.withoutSpans_kind] at hgathers
  obtain ⟨read, hread, heq⟩ := hgathers
  exact ⟨read, parse_plain_eq_ok_iff.mpr ⟨blocks, hblocks, hread⟩, heq⟩

theorem isPrintable_of_parse {source : String} (h : parse source false = .ok document) :
    document.IsPrintable ∧ ∀ block ∈ document.toList, block.asRead = block := by
  obtain ⟨blocks, hblocks, hgathers⟩ := parse_plain_eq_ok_iff.mp h
  have hall : ∀ block ∈ document.toList, block.IsPrintable ∧ block.asRead = block := by
    intro block hblock
    exact isPrintable_of_segmented hblocks block ((mem_toList_iff hgathers).mp hblock)
  refine ⟨⟨inPlace_of_gathers hgathers, ?_⟩, ?_⟩
  · intro block hblock
    exact (hall block hblock).1
  · intro block hblock
    exact (hall block hblock).2

/-- A document with the hard cases side by side: a nested template, quotes of both kinds, values
with angle brackets, an attribute that is switched off and an empty one, and a custom block. -/
def quotedSample : Document where
  template := some
    { kind := .template
      content := "<template #a><p>1 </p></template >\n</template>"
      attributes := [⟨"lang", .text "a>\"b\"", ⟨0, 0⟩⟩, ⟨"off", .flag false, ⟨0, 0⟩⟩] }
  script := some
    { kind := .script
      content := "let a = '</style>'"
      attributes := [⟨"src", .text "", ⟨0, 0⟩⟩, ⟨"@b", .text "it's", ⟨0, 0⟩⟩] }
  blocks := [{ kind := .custom "i18n", content := "\x7b \"</script>\": 1 \x7d" }]

/-- Every printable document is read again as it was, up to spans, and the documents that can be
read are exactly of that form. -/
theorem print_parse_inverse :
    (∀ document : Document, document.IsPrintable →
      ∃ read, parse document.print false = .ok read ∧
        read.withoutSpans = document.asRead.withoutSpans) ∧
    ∀ (source : String) (document : Document), parse source false = .ok document →
      document.IsPrintable ∧ document.asRead = document := by
  refine ⟨?_, ?_⟩
  · intro document h
    exact parse_print h
  · intro source document h
    obtain ⟨hprintable, hread⟩ := isPrintable_of_parse h
    exact ⟨hprintable, map_eq_self hread⟩

theorem print_parse_inverse_quotedSample :
    quotedSample.IsPrintable ∧
    ∃ read, parse quotedSample.print false = .ok read ∧
      read.withoutSpans = quotedSample.asRead.withoutSpans ∧
      read.IsPrintable ∧ read.asRead = read := by
  have hsample : quotedSample.IsPrintable := by decide +kernel
  obtain ⟨read, hread, heq⟩ := print_parse_inverse.1 quotedSample hsample
  exact ⟨hsample, read, hread, heq, print_parse_inverse.2 _ read hread⟩

end Document

end SfcWeave
