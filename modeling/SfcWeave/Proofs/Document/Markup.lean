import SfcWeave.Proofs.Document.Segmentation

/-!
# Markup with templates in it

`Markup` is what stands inside a template, as far as nested templates go: runs of text, pairs of
tags with markup between them, and empty tags such as `<template/>`. Around printed markup a
template ends at its own closing tag exactly if no empty tag carries attributes:

    parse_markup : markup.IsWellFormed →
      parse ("<template>" ++ markup.print ++ "</template>") false =
        if markup.unpaired = 0 then .ok … else .error ⟨.unclosedBlock "template", ⟨0, 10⟩⟩

Where the name of a tag is followed by a blank, a nested template is taken to open, whatever ends
the tag. So markup adds as many templates to the depth as it holds empty tags with attributes
(`templateContent?_markup`), and the closing tags for these are missing at the end.
-/

namespace SfcWeave.Document

open Text (byteLength byteLength_nil byteLength_cons byteLength_append after?)
open Token (IsGap IsName)

/-! ### Markup -/

/-- Attributes as they stand after the name of a tag: bare, or with values in quotes, none of which
holds an angle bracket. -/
inductive AttributesText : List Char → Prop
  | none {gap} : IsGap gap → AttributesText gap
  | bare {gap name rest} : IsGap gap → IsName name → AttributesText rest →
      AttributesText (gap ++ name ++ rest)
  | quoted {gap name before between quote value rest} : IsGap gap → IsName name →
      IsGap before → IsGap between → quote = '"' ∨ quote = '\'' → quote ∉ value →
      '<' ∉ value → '>' ∉ value → AttributesText rest →
      AttributesText
        (gap ++ name ++ before ++ '=' :: between ++ quote :: value ++ [quote] ++ rest)

/-- What may stand between the name of a tag and its end: nothing, or attributes after a space. -/
structure IsTagRest (attributes : List Char) : Prop where
  text : AttributesText attributes
  space : ∀ c ∈ attributes.head?, c = ' '

/-- Markup from left to right: each constructor is one piece and what follows it. -/
inductive Markup where
  | done
  | text (run : List Char) (rest : Markup)
  /-- `<template …>`, the markup inside it, and `</template>`. -/
  | pair (attributes : List Char) (inner rest : Markup)
  /-- `<template …/>` -/
  | empty (attributes : List Char) (rest : Markup)
deriving DecidableEq, Repr

namespace Markup

/-- The text of the markup. -/
def print : Markup → List Char
  | done => []
  | text run rest => run ++ rest.print
  | pair attributes inner rest =>
    '<' :: "template".toList ++ attributes ++ ['>'] ++ inner.print ++
      closingTag "template".toList ++ rest.print
  | empty attributes rest => '<' :: "template".toList ++ attributes ++ ['/', '>'] ++ rest.print

/-- Does the markup start with a run of text? -/
def startsWithText : Markup → Bool
  | text .. => true
  | _ => false

/-- Runs of text hold no tags of templates and do not follow each other, and tags are tags. -/
def IsWellFormed : Markup → Prop
  | done => True
  | text run rest => ¬ "<template".toList <:+: run ∧ ¬ "</template".toList <:+: run ∧
      rest.startsWithText = false ∧ rest.IsWellFormed
  | pair attributes inner rest =>
    IsTagRest attributes ∧ inner.IsWellFormed ∧ rest.IsWellFormed
  | empty attributes rest => IsTagRest attributes ∧ rest.IsWellFormed

/-- How many empty tags carry attributes. -/
def unpaired : Markup → Nat
  | done => 0
  | text _ rest => rest.unpaired
  | pair _ inner rest => inner.unpaired + rest.unpaired
  | empty attributes rest => (if attributes = [] then 0 else 1) + rest.unpaired

end Markup

variable {depth : Nat} {c : Char} {cs run attributes content rest : List Char} {markup : Markup}

/-! ### Reading over a text -/

/-- A content and what follows it, with a text in front. -/
def inFront (text : List Char) : List Char × List Char → List Char × List Char
  | (content, after) => (text ++ content, after)

theorem inFront_nil : inFront [] = id := rfl

theorem map_inFront (found : Option (List Char × List Char)) (a b : List Char) :
    (found.map (inFront b)).map (inFront a) = found.map (inFront (a ++ b)) := by
  rw [Option.map_map]
  congr 1
  funext ⟨content, after⟩
  simp [inFront]

theorem templateContent?_nil : templateContent? depth [] = none := by
  rw [templateContent?]

theorem templateContent?_closingTag (cs : List Char) :
    templateContent? depth (closingTag "template".toList ++ cs) =
      if depth = 0 then some ([], cs)
      else (templateContent? (depth - 1) cs).map (inFront (closingTag "template".toList)) := by
  have hafter := Text.after?_append (closingTag "template".toList) cs
  rw [show closingTag "template".toList ++ cs = '<' :: ("/template>".toList ++ cs) from rfl] at *
  rw [templateContent?]
  split
  · next rest hrest =>
    obtain rfl := Option.some.inj (hafter.symm.trans hrest)
    rfl
  · next hnone =>
    rw [hafter] at hnone
    cases hnone

/-- A character at which no template is closed is passed over, and may open one. -/
theorem templateContent?_cons (h : closesTemplate (c :: cs) = false) :
    templateContent? depth (c :: cs) =
      (templateContent? (depth + if opensTemplate (c :: cs) then 1 else 0) cs).map
        (inFront [c]) := by
  rw [templateContent?]
  split
  · next rest hrest =>
    rw [closesTemplate, hrest] at h
    cases h
  · rfl

/-- Nothing happens to the depth where no tag of a template starts. -/
theorem templateContent?_append
    (h : ∀ c tail, c :: tail <:+ run →
      closesTemplate (c :: tail ++ cs) = false ∧ opensTemplate (c :: tail ++ cs) = false) :
    templateContent? depth (run ++ cs) = (templateContent? depth cs).map (inFront run) := by
  induction run with
  | nil => rw [List.nil_append, inFront_nil, Option.map_id]; rfl
  | cons c run ih =>
    obtain ⟨hcloses, hopens⟩ := h c run (List.suffix_refl _)
    have hrun := ih fun d tail htail => h d tail (htail.trans (List.suffix_cons c run))
    rw [List.cons_append] at *
    rw [templateContent?_cons hcloses, hopens, if_neg Bool.false_ne_true, Nat.add_zero, hrun,
      map_inFront]
    rfl

theorem templateContent?_of_not_mem (h : '<' ∉ run) :
    templateContent? depth (run ++ cs) = (templateContent? depth cs).map (inFront run) := by
  apply templateContent?_append
  intro c tail htail
  have hc : c ≠ '<' := by
    rintro rfl
    exact h (htail.subset List.mem_cons_self)
  exact ⟨closesTemplate_of_ne hc, opensTemplate_of_ne hc⟩

/-- No template ends in a text without a `<`. -/
theorem templateContent?_eq_none (h : '<' ∉ cs) : templateContent? depth cs = none := by
  rw [← List.append_nil cs, templateContent?_of_not_mem h, templateContent?_nil]
  rfl

/-- A tag that closes nothing is passed over; its name and what follows it decide whether it counts
as opened. -/
theorem templateContent?_tag (h : '<' ∉ run) :
    templateContent? depth ('<' :: "template".toList ++ run ++ cs) =
      (templateContent? (depth + if opensTemplate ('<' :: "template".toList ++ run ++ cs) then 1
        else 0) cs).map (inFront ('<' :: "template".toList ++ run)) := by
  have hname : '<' ∉ "template".toList ++ run := by simp [h]
  have hcloses : closesTemplate ('<' :: "template".toList ++ run ++ cs) = false := rfl
  rw [List.cons_append, List.cons_append] at *
  rw [templateContent?_cons hcloses, templateContent?_of_not_mem hname, map_inFront]
  rfl

/-! ### Pieces of markup -/

theorem not_mem_of_isGap {gap : List Char} (h : IsGap gap) : '<' ∉ gap := by
  intro hmem
  have hsep := h '<' hmem
  simp [Token.isSeparator] at hsep

theorem not_mem_of_attributesText (h : AttributesText attributes) : '<' ∉ attributes := by
  induction h with
  | none hgap => exact not_mem_of_isGap hgap
  | bare hgap hname _ ih => simp [not_mem_of_isGap hgap, not_mem_of_isName hname, ih]
  | quoted hgap hname hbefore hbetween hquote _ hvalue _ _ ih =>
    have hne := not_mem_of_isName hname
    rcases hquote with rfl | rfl
    · simp [not_mem_of_isGap hgap, not_mem_of_isGap hbefore, not_mem_of_isGap hbetween, hne,
        hvalue, ih]
    · simp [not_mem_of_isGap hgap, not_mem_of_isGap hbefore, not_mem_of_isGap hbetween, hne,
        hvalue, ih]

/-- A run of text does not change the depth, if no other run follows. -/
theorem templateContent?_text (hopen : ¬ "<template".toList <:+: run)
    (hclose : ¬ "</template".toList <:+: run) (hcs : ∀ c ∈ cs.head?, c = '<') :
    templateContent? depth (run ++ cs) = (templateContent? depth cs).map (inFront run) := by
  apply templateContent?_append
  intro c tail htail
  -- where the run ends, no tag can have begun
  have hends : closesTemplate (c :: tail ++ cs) = closesTemplate (c :: tail) ∧
      opensTemplate (c :: tail ++ cs) = opensTemplate (c :: tail) := by
    cases cs with
    | nil => rw [List.append_nil]; exact ⟨rfl, rfl⟩
    | cons d cs =>
      obtain rfl := hcs d rfl
      exact ⟨closesTemplate_append (List.cons_ne_nil c tail),
        opensTemplate_append (List.cons_ne_nil c tail)⟩
  rw [hends.1, hends.2, Bool.eq_false_iff, Bool.eq_false_iff]
  constructor
  · intro hcloses
    have hprefix : "</template".toList <+: c :: tail :=
      List.IsPrefix.trans (by decide) (closesTemplate_iff.mp hcloses)
    have hinfix := hprefix.isInfix.trans htail.isInfix
    exact hclose hinfix
  · intro hopens
    obtain ⟨d, -, hprefix⟩ := opensTemplate_iff.mp hopens
    exact hopen (((List.prefix_append _ _).trans hprefix).isInfix.trans htail.isInfix)

theorem head?_print_append (h : markup.startsWithText = false) (hcs : ∀ c ∈ cs.head?, c = '<') :
    ∀ c ∈ (markup.print ++ cs).head?, c = '<' := by
  cases markup with
  | done => exact hcs
  | text => cases h
  | pair | empty => simp [Markup.print]

/-- A tag with an end of its own that has no slash opens a template. -/
theorem opensTemplate_pair (h : IsTagRest attributes) :
    opensTemplate ('<' :: "template".toList ++ (attributes ++ ['>']) ++ cs) = true := by
  cases attributes with
  | nil => rfl
  | cons c attributes =>
    obtain rfl := h.space c rfl
    rfl

/-- An empty tag counts as opened exactly if it carries attributes. -/
theorem opensTemplate_empty (h : IsTagRest attributes) :
    opensTemplate ('<' :: "template".toList ++ (attributes ++ ['/', '>']) ++ cs) =
      decide (attributes ≠ []) := by
  cases attributes with
  | nil => rfl
  | cons c attributes =>
    obtain rfl := h.space c rfl
    rfl

/-- Reading over markup adds to the depth what is not paired. -/
theorem templateContent?_markup (h : markup.IsWellFormed) (hcs : ∀ c ∈ cs.head?, c = '<') :
    templateContent? depth (markup.print ++ cs) =
      (templateContent? (depth + markup.unpaired) cs).map (inFront markup.print) := by
  induction markup generalizing depth cs with
  | done => rw [Markup.print, List.nil_append, inFront_nil, Option.map_id]; rfl
  | text run rest ih =>
    rw [Markup.IsWellFormed] at h
    obtain ⟨hopen, hclose, hnext, hrest⟩ := h
    rw [Markup.print, List.append_assoc,
      templateContent?_text hopen hclose (head?_print_append hnext hcs), ih hrest hcs, map_inFront,
      Markup.unpaired]
  | pair attributes inner rest hinner hrest =>
    rw [Markup.IsWellFormed] at h
    obtain ⟨hattributes, hwell, hwell'⟩ := h
    have hprint : (Markup.pair attributes inner rest).print ++ cs =
        '<' :: "template".toList ++ (attributes ++ ['>']) ++
          (inner.print ++ (closingTag "template".toList ++ (rest.print ++ cs))) := by
      simp [Markup.print]
    have htag : '<' ∉ attributes ++ ['>'] := by
      simp [not_mem_of_attributesText hattributes.text]
    have hclosing : ∀ c ∈ (closingTag "template".toList ++ (rest.print ++ cs)).head?, c = '<' := by
      simp [closingTag]
    rw [hprint, templateContent?_tag htag, if_pos (opensTemplate_pair hattributes),
      hinner hwell hclosing, templateContent?_closingTag, if_neg (by omega), hrest hwell' hcs,
      map_inFront, map_inFront, map_inFront, Markup.print, Markup.unpaired]
    -- the closing tag takes back what its tag has added
    rw [show depth + 1 + inner.unpaired - 1 + rest.unpaired =
      depth + (inner.unpaired + rest.unpaired) by omega]
    simp only [List.append_assoc]
  | empty attributes rest ih =>
    rw [Markup.IsWellFormed] at h
    obtain ⟨hattributes, hrest⟩ := h
    have htag : '<' ∉ attributes ++ ['/', '>'] := by
      simp [not_mem_of_attributesText hattributes.text]
    have hprint : (Markup.empty attributes rest).print ++ cs =
        '<' :: "template".toList ++ (attributes ++ ['/', '>']) ++ (rest.print ++ cs) := by
      simp [Markup.print]
    rw [hprint, templateContent?_tag htag, opensTemplate_empty hattributes, ih hrest hcs,
      map_inFront, Markup.print, Markup.unpaired]
    by_cases hnone : attributes = []
    · simp [hnone]
    · simp [hnone, Nat.add_assoc]

/-! ### A template around markup -/

/-- A template in front of a text ends where its content does, or not at all. -/
theorem readBlock_template (cs : List Char) :
    readBlock 0 "template".toList ('>' :: cs) =
      match templateContent? 0 cs with
      | none => .error ⟨.unclosedBlock "template", ⟨0, 10⟩⟩
      | some (content, rest) =>
        .ok ({ kind := .template, content := String.ofList content, attributes := []
               span := ⟨0, 10 + byteLength content + 11⟩
               contentSpan := ⟨10, 10 + byteLength content⟩ }, rest) := by
  have hheader : HeaderText (0 + 1 + byteLength "template".toList) ['>'] [] false :=
    .tagEnd Token.isGap_nil
  have hread := readHeader_of_headerText hheader 0 cs
  have hcontent : content? "template".toList cs = templateContent? 0 cs := if_pos rfl
  rw [readBlock, show '>' :: cs = ['>'] ++ cs from rfl, hread]
  simp only [bind, Except.bind, hcontent, Bool.false_eq_true, if_false]
  cases templateContent? 0 cs with
  | none => rfl
  | some found => rfl

/-- A source that starts with a template is the template, or is not read at all, and then what
follows it. -/
theorem parse_template (cs : List Char) :
    parse ("<template>" ++ String.ofList cs) false =
      match templateContent? 0 cs with
      | none => .error ⟨.unclosedBlock "template", ⟨0, 10⟩⟩
      | some (content, rest) =>
        readBlocks id
          { template := some
              { kind := .template, content := String.ofList content, attributes := []
                span := ⟨0, 10 + byteLength content + 11⟩
                contentSpan := ⟨10, 10 + byteLength content⟩ } }
          (10 + byteLength content + 11) rest := by
  have hsource : ("<template>" ++ String.ofList cs).toList =
      '<' :: "template".toList ++ '>' :: cs := by simp
  have hends : Token.EndsName ('>' :: cs) := Token.endsName_cons.mpr (by decide)
  unfold parse
  rw [hsource, readBlocks_tag (by decide) (by decide) hends, readBlock_template]
  cases templateContent? 0 cs with
  | none => rfl
  | some found => rfl

/-- A template around markup is read, and its content is exactly the markup, if no empty tag in it
carries attributes. Otherwise it is not closed. -/
theorem parse_markup (markup : Markup) (h : markup.IsWellFormed) :
    parse ("<template>" ++ String.ofList markup.print ++ "</template>") false =
      if markup.unpaired = 0 then
        .ok { template := some
                { kind := .template, content := String.ofList markup.print, attributes := []
                  span := ⟨0, 10 + byteLength markup.print + 11⟩
                  contentSpan := ⟨10, 10 + byteLength markup.print⟩ } }
      else .error ⟨.unclosedBlock "template", ⟨0, 10⟩⟩ := by
  have hsource : "<template>" ++ String.ofList markup.print ++ "</template>" =
      "<template>" ++ String.ofList (markup.print ++ (closingTag "template".toList ++ [])) := by
    simp [closingTag, String.append_assoc]
  have hclosing : ∀ c ∈ (closingTag "template".toList ++ []).head?, c = '<' := by simp [closingTag]
  rw [hsource, parse_template, templateContent?_markup h hclosing, templateContent?_closingTag,
    Nat.zero_add]
  by_cases hpaired : markup.unpaired = 0
  · rw [if_pos hpaired, if_pos hpaired]
    simp only [Option.map_some, inFront, List.append_nil]
    exact readBlocks_nil
  · rw [if_neg hpaired, if_neg hpaired, templateContent?_nil]
    rfl

/-! ### Samples -/

/-- The attribute ` v-if="a"`. -/
theorem isTagRest_condition : IsTagRest " v-if=\"a\"".toList := by
  have hgap : IsGap [' '] := by simp [IsGap, Token.isSeparator]
  refine ⟨?_, by rintro c ⟨⟩; rfl⟩
  have hname : IsName "v-if".toList := by decide
  have hvalue : '"' ∉ ['a'] ∧ '<' ∉ ['a'] ∧ '>' ∉ ['a'] := by decide
  exact .quoted hgap hname Token.isGap_nil Token.isGap_nil (.inl rfl) hvalue.1 hvalue.2.1 hvalue.2.2
    (.none Token.isGap_nil)

/-- A condition around an empty tag, and a `<` that is no tag. -/
def conditionSample : Markup :=
  .text "<p> 1 < 2".toList
    (.pair " v-if=\"a\"".toList (.empty [] (.text "</p>".toList .done)) .done)

theorem parse_markup_conditionSample :
    conditionSample.IsWellFormed ∧
    (parse ("<template>" ++ "<p> 1 < 2<template v-if=\"a\"><template/></p></template>" ++
      "</template>") false).toOption.map (fun document => document.template.map (·.content)) =
        some (some "<p> 1 < 2<template v-if=\"a\"><template/></p></template>") := by
  have hnone : IsTagRest [] := ⟨.none Token.isGap_nil, by simp⟩
  have hwell : conditionSample.IsWellFormed := by
    refine ⟨by decide, by decide, rfl, isTagRest_condition, ?_, trivial⟩
    exact ⟨hnone, by decide, by decide, rfl, trivial⟩
  have hread := parse_markup conditionSample hwell
  refine ⟨hwell, ?_⟩
  rw [show "<p> 1 < 2<template v-if=\"a\"><template/></p></template>" =
    String.ofList conditionSample.print by decide, hread]
  rfl

/-- An empty tag with an attribute is markup, and the template around it is not closed. -/
theorem parse_markup_unclosed :
    (Markup.empty " v-if=\"a\"".toList .done).IsWellFormed ∧
    parse ("<template>" ++ String.ofList (Markup.empty " v-if=\"a\"".toList .done).print ++
      "</template>") false = .error ⟨.unclosedBlock "template", ⟨0, 10⟩⟩ := by
  refine ⟨⟨isTagRest_condition, trivial⟩, ?_⟩
  decide +kernel

end SfcWeave.Document
