import SfcWeave.Proofs.Document.RoundTrip
import SfcWeave.Proofs.Text.Indent

/-!
# Documents without common indentation

A document read with its contents deindented is the document itself with every content deindented
afterwards (`parse_deindent_eq_ok_iff`). Its blocks can still be printed: a closing tag holds no
line feed, so none comes about in a content, and in a template the tags of nested ones stay what
they are, since a line never loses its end.
-/

namespace SfcWeave.Document

open Text (Trims)
open Token (IsName)

variable {source : String} {document : Document} {block : Block} {tag content : String}
  {change : Block → Block} {depth : Nat} {e : Char} {cs rest tail : List Char}
  {lines : List (List Char)} {trim : List Char → List Char}

/-! ### Reading -/

theorem parse_deindent_eq_ok_iff :
    parse source true = .ok document ↔
      ∃ plain, parse source false = .ok plain ∧ plain.map deindented = document := by
  constructor
  · intro h
    obtain ⟨blocks, hblocks, hgathers⟩ := parse_eq_ok_iff.mp h
    obtain ⟨plain, hplain, heq⟩ := (gathers_map_iff (prepared_kind true)).mp hgathers
    exact ⟨plain, parse_plain_eq_ok_iff.mpr ⟨blocks, hblocks, hplain⟩, heq⟩
  · rintro ⟨plain, hplain, rfl⟩
    obtain ⟨blocks, hblocks, hgathers⟩ := parse_plain_eq_ok_iff.mp hplain
    apply parse_eq_ok_iff.mpr
    exact ⟨blocks, hblocks, gathers_map (prepared_kind true) hgathers⟩

theorem inPlace_of_parse {deindent : Bool} (h : parse source deindent = .ok document) :
    document.InPlace := by
  obtain ⟨_, _, hgathers⟩ := parse_eq_ok_iff.mp h
  exact inPlace_of_gathers hgathers

/-! ### Nested templates -/

/-- What follows a line end has no part in the tags before it. -/
theorem nests_of_lineEnd (he : e ∈ ['\n', '\r'])
    (htail : ∀ depth, Nests depth tail → Nests depth rest)
    (h : Nests depth (cs ++ e :: tail)) : Nests depth (cs ++ '\n' :: rest) := by
  have hends : ∀ e ∈ ['\n', '\r'], '<' ∉ [e] ∧ e ∈ templateTagEnds ∧
      e ∉ (closingTag "template".toList).tail := by
    simp [templateTagEnds, closingTag]
  obtain ⟨hangle, hend, hclosing⟩ := hends e he
  induction cs generalizing depth with
  | nil =>
    have hrest : Nests depth rest := htail depth ((nests_append_iff hangle).mp h)
    rw [List.nil_append]
    have hangle : '<' ∉ ['\n'] := by decide
    exact (nests_append_iff hangle).mpr hrest
  | cons c cs ih =>
    have hcloses : closesTemplate (c :: cs ++ e :: tail) =
        closesTemplate (c :: cs ++ '\n' :: rest) := by
      rw [closesTemplate_append_cons (by simp) hclosing,
        closesTemplate_append_cons (by simp) (by decide)]
    have hopens : opensTemplate (c :: cs ++ e :: tail) =
        opensTemplate (c :: cs ++ '\n' :: rest) := by
      rw [Bool.eq_iff_iff, opensTemplate_append_cons hend, opensTemplate_append_cons (by decide)]
    rw [List.cons_append, nests_cons_iff, ← List.cons_append, hcloses, hopens] at h
    rw [List.cons_append, nests_cons_iff, ← List.cons_append]
    exact ⟨h.1, ih h.2⟩

/-- A template that is opened at the very end is not closed. -/
theorem not_nests_opened : ¬ Nests depth ("<template".toList ++ ['\r']) := by
  intro h
  have hcloses : placesIn closesTemplate ("<template".toList ++ ['\r']) [] = 0 := by decide
  have hopens : placesIn opensTemplate ("<template".toList ++ ['\r']) [] = 1 := by decide
  have htotal := h.closed_eq
  rw [hcloses, hopens] at htotal
  omega

/-- Nothing depends on a carriage return at the end. -/
theorem nests_of_append_return (h : Nests depth (cs ++ ['\r'])) : Nests depth cs := by
  induction cs generalizing depth with
  | nil =>
    have hangle : '<' ∉ ['\r'] := by decide
    exact (nests_append_iff hangle).mp h
  | cons c cs ih =>
    have hcloses : closesTemplate (c :: cs ++ ['\r']) = closesTemplate (c :: cs) :=
      closesTemplate_append_cons (by simp) (by decide)
    have hopens : opensTemplate (c :: cs ++ ['\r']) = opensTemplate (c :: cs) := by
      rw [Bool.eq_iff_iff, opensTemplate_append_cons (by decide), or_iff_left_iff_imp]
      intro hopened
      rw [hopened] at h
      exact absurd h not_nests_opened
    rw [List.cons_append, nests_cons_iff, ← List.cons_append, hcloses, hopens] at h
    rw [nests_cons_iff]
    exact ⟨h.1, ih h.2⟩

/-- Templates that nest do so once every line is trimmed. -/
theorem nests_join_map (htrims : ∀ line ∈ lines, Trims line (trim line))
    (h : Nests depth (Text.join ['\n'] lines)) :
    Nests depth (Text.join ['\n'] (lines.map trim)) := by
  have hangle : ∀ {front : List Char}, (∀ c ∈ front, Text.isBlank c) → '<' ∉ front := by
    intro front hfront hmem
    exact absurd (hfront '<' hmem) (by decide)
  induction lines generalizing depth with
  | nil => exact h
  | cons line lines ih =>
    rw [List.forall_mem_cons] at htrims
    obtain ⟨hline, hlines⟩ := htrims
    rw [List.map_cons]
    generalize trim line = cut at hline ⊢
    obtain ⟨hfront, hback⟩ := hline
    cases lines with
    | nil =>
      rw [Text.join, List.append_assoc, nests_append_iff (hangle hfront)] at h
      show Nests depth cut
      rcases hback with rfl | rfl
      · simpa using h
      · exact nests_of_append_return h
    | cons next lines =>
      have htail : ∀ depth, Nests depth (Text.join ['\n'] (next :: lines)) →
          Nests depth (Text.join ['\n'] ((next :: lines).map trim)) := fun _ => ih hlines
      rw [Text.join_cons_cons, List.append_assoc, List.append_assoc, List.append_assoc,
        nests_append_iff (hangle hfront)] at h
      rw [List.map_cons, Text.join_cons_cons, List.append_assoc]
      rcases hback with rfl | rfl
      · exact nests_of_lineEnd (by simp) htail h
      · -- the line feed follows the carriage return
        have hfeed : '<' ∉ ['\n'] := by decide
        refine nests_of_lineEnd (by simp) ?_ h
        intro depth h
        exact htail depth ((nests_append_iff hfeed).mp h)

/-! ### Contents -/

/-- A closing tag is a text on one line. -/
theorem not_mem_closingTag {tag : List Char} (h : IsName tag) : '\n' ∉ closingTag tag := by
  have htag : '\n' ∉ tag := by
    intro hmem
    exact absurd (h.2 '\n' hmem) (by decide)
  simpa [closingTag] using htag

theorem isContent_deindent (hname : IsName tag.toList)
    (h : IsContent tag.toList content.toList) :
    IsContent tag.toList (Text.deindent content).toList := by
  unfold IsContent at h ⊢
  split at h
  · next htag =>
    rw [if_pos htag]
    obtain ⟨trim, htrims, heq⟩ := Text.exists_trims content
    rw [← Text.join_splitOn '\n' content.toList] at h
    rw [heq]
    exact nests_join_map htrims h
  · next htag =>
    rw [if_neg htag]
    intro hinfix
    apply h
    exact Text.infix_of_infix_deindent (by simp [closingTag]) (not_mem_closingTag hname) hinfix

theorem isPrintable_deindented (h : block.IsPrintable) : (deindented block).IsPrintable := by
  obtain ⟨-, hname, -⟩ := ofTag_tag h.kind
  exact ⟨h.kind, h.attributes, isContent_deindent hname h.content⟩

/-- A document that has been read can be printed. -/
theorem isPrintable_of_parse_deindent (h : parse source = .ok document) :
    document.IsPrintable ∧ ∀ block ∈ document.toList, block.asRead = block := by
  obtain ⟨plain, hplain, heq⟩ := parse_deindent_eq_ok_iff.mp h
  obtain ⟨hprintable, hread⟩ := isPrintable_of_parse hplain
  have hblocks : document.toList = plain.toList.map deindented := by rw [← heq, toList_map]
  refine ⟨⟨inPlace_of_parse h, ?_⟩, ?_⟩
  · rw [hblocks, List.forall_mem_map]
    intro block hblock
    exact isPrintable_deindented (hprintable.blocks block hblock)
  · rw [hblocks, List.forall_mem_map]
    intro block hblock
    show deindented block.asRead = deindented block
    rw [hread block hblock]

/-! ### The language of the script -/

/-- A change that keeps the language of blocks does not make a script typed, or untyped. -/
theorem hasTypedScript_map (h : ∀ block, (change block).lang? = block.lang?) (document : Document)
    (marker : String) : (document.map change).hasTypedScript marker =
      document.hasTypedScript marker := by
  cases hscript : document.script <;> simp [hasTypedScript, map, hscript, h]

end SfcWeave.Document
