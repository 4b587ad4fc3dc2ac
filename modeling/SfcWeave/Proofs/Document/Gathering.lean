import Mathlib.Tactic.MkIffOfInductiveProp
import SfcWeave.Proofs.Document.Grammar

/-!
# Gathering blocks in a document

A document holds its blocks apart: the template, the script, and the others. `Gathers blocks
document` determines the document from the list of blocks (`gathers_unique`), and there is one
unless two blocks compete for the same place (`exists_gathers_iff`). A change of the blocks that
leaves their kinds alone can be made before gathering or after it,

    gathers_map_iff : Gathers (blocks.map change) result ↔
      ∃ document, Gathers blocks document ∧ document.map change = result
-/

namespace SfcWeave.Document

variable {document result : Document} {block : Block} {blocks : List Block} {change : Block → Block}

/-- Makes a change to every block of a document. -/
def map (change : Block → Block) (document : Document) : Document where
  template := document.template.map change
  script := document.script.map change
  blocks := document.blocks.map change

/-- Each block stands in the place of its kind. -/
@[mk_iff]
structure InPlace (document : Document) : Prop where
  template : ∀ block ∈ document.template, block.kind = .template
  script : ∀ block ∈ document.script, block.kind = .script
  others : ∀ block ∈ document.blocks, block.kind ≠ .template ∧ block.kind ≠ .script

instance (document : Document) : Decidable document.InPlace :=
  decidable_of_iff' _ document.inPlace_iff

/-! ### Optional blocks as lists -/

/-- An optional block is known from the list of it. -/
theorem toList_eq_toList_iff {a b : Option Block} : a.toList = b.toList ↔ a = b := by
  cases a <;> cases b <;> simp

/-- A list with at most one element is that of an optional one. -/
theorem exists_toList_eq_iff : (∃ a : Option Block, blocks = a.toList) ↔ blocks.length ≤ 1 := by
  constructor
  · rintro ⟨a, rfl⟩
    cases a <;> simp
  · intro h
    match blocks, h with
    | [], _ => exact ⟨none, rfl⟩
    | [block], _ => exact ⟨some block, rfl⟩

theorem toList_map (change : Block → Block) (document : Document) :
    (document.map change).toList = document.toList.map change := by
  simp [toList, map, Option.toList_map]

theorem map_eq_self (h : ∀ block ∈ document.toList, change block = block) :
    document.map change = document := by
  obtain ⟨template, script, others⟩ := document
  simp only [toList, List.mem_append, Option.mem_toList, or_imp, forall_and] at h
  obtain ⟨⟨htemplate, hscript⟩, hothers⟩ := h
  have hoption : ∀ a : Option Block, (∀ block ∈ a, change block = block) → a.map change = a := by
    rintro (_ | block) h
    · rfl
    · rw [Option.map_some, h block rfl]
  rw [map, hoption template htemplate, hoption script hscript,
    List.map_congr_left hothers, List.map_id']

/-! ### The gathered document -/

theorem gathers_unique (h : Gathers blocks document) (h' : Gathers blocks result) :
    document = result := by
  obtain ⟨template, script, others⟩ := document
  obtain ⟨template', script', others'⟩ := result
  obtain rfl := toList_eq_toList_iff.mp (h.template.symm.trans h'.template)
  obtain rfl := toList_eq_toList_iff.mp (h.script.symm.trans h'.script)
  obtain rfl := h.others.symm.trans h'.others
  rfl

/-- Blocks can be gathered in a document unless there are two templates or two scripts. -/
theorem exists_gathers_iff :
    (∃ document, Gathers blocks document) ↔
      (blocks.filter (·.kind = .template)).length ≤ 1 ∧
      (blocks.filter (·.kind = .script)).length ≤ 1 := by
  rw [← exists_toList_eq_iff, ← exists_toList_eq_iff]
  constructor
  · rintro ⟨document, htemplate, hscript, _⟩
    exact ⟨⟨document.template, htemplate⟩, ⟨document.script, hscript⟩⟩
  · rintro ⟨⟨template, htemplate⟩, ⟨script, hscript⟩⟩
    exact ⟨⟨template, script, _⟩, htemplate, hscript, rfl⟩

/-- The blocks of a gathered document are those it was gathered from. -/
theorem mem_toList_iff (h : Gathers blocks document) :
    block ∈ document.toList ↔ block ∈ blocks := by
  rw [toList, ← h.template, ← h.script, ← h.others]
  simp only [List.mem_append, List.mem_filter, decide_eq_true_eq]
  constructor
  · rintro ((⟨hmem, _⟩ | ⟨hmem, _⟩) | ⟨hmem, _⟩)
    · exact hmem
    · exact hmem
    · exact hmem
  · intro hmem
    by_cases htemplate : block.kind = .template
    · exact .inl (.inl ⟨hmem, htemplate⟩)
    · by_cases hscript : block.kind = .script
      · exact .inl (.inr ⟨hmem, hscript⟩)
      · exact .inr ⟨hmem, htemplate, hscript⟩

theorem inPlace_of_gathers (h : Gathers blocks document) : document.InPlace := by
  have hmem : ∀ {test : Block → Bool} {a : List Block}, blocks.filter test = a →
      ∀ block ∈ a, test block := by
    rintro test a rfl block hblock
    exact (List.mem_filter.mp hblock).2
  constructor
  · intro block hblock
    simpa using hmem h.template block (by simpa using hblock)
  · intro block hblock
    simpa using hmem h.script block (by simpa using hblock)
  · intro block hblock
    simpa using hmem h.others block hblock

/-- A document in order is gathered from its own blocks. -/
theorem gathers_toList (h : document.InPlace) : Gathers document.toList document := by
  obtain ⟨template, script, others⟩ := document
  obtain ⟨htemplate, hscript, hothers⟩ := h
  have hnone : ∀ {kind : BlockKind}, (kind = .template ∨ kind = .script) →
      others.filter (·.kind = kind) = [] := by
    intro kind hkind
    rw [List.filter_eq_nil_iff]
    intro block hblock
    rcases hkind with rfl | rfl
    · simpa using (hothers block hblock).1
    · simpa using (hothers block hblock).2
  have hall : others.filter (fun block => block.kind ≠ .template ∧ block.kind ≠ .script) =
      others := by
    rw [List.filter_eq_self]
    intro block hblock
    simpa using hothers block hblock
  constructor
  · rw [toList, List.filter_append, List.filter_append, hnone (.inl rfl)]
    cases template <;> cases script <;> simp_all
  · rw [toList, List.filter_append, List.filter_append, hnone (.inr rfl)]
    cases template <;> cases script <;> simp_all
  · rw [toList, List.filter_append, List.filter_append, hall]
    cases template <;> cases script <;> simp_all

/-! ### Changes that keep the kinds -/

theorem inPlace_map_iff (hchange : ∀ block, (change block).kind = block.kind) :
    (document.map change).InPlace ↔ document.InPlace := by
  rw [inPlace_iff, inPlace_iff]
  simp [map, hchange]

/-- The blocks that pass a test on their kinds, before and after a change. -/
theorem filter_map_kind (hchange : ∀ block, (change block).kind = block.kind)
    (test : BlockKind → Bool) :
    (blocks.map change).filter (fun block => test block.kind) =
      (blocks.filter fun block => test block.kind).map change := by
  simp [List.filter_map, Function.comp_def, hchange]

theorem gathers_map (hchange : ∀ block, (change block).kind = block.kind)
    (h : Gathers blocks document) : Gathers (blocks.map change) (document.map change) := by
  constructor
  · rw [filter_map_kind hchange (· = .template), h.template, map, Option.toList_map]
  · rw [filter_map_kind hchange (· = .script), h.script, map, Option.toList_map]
  · rw [filter_map_kind hchange (fun kind => kind ≠ .template ∧ kind ≠ .script), h.others]
    rfl

theorem gathers_map_iff (hchange : ∀ block, (change block).kind = block.kind) :
    Gathers (blocks.map change) result ↔
      ∃ document, Gathers blocks document ∧ document.map change = result := by
  constructor
  · intro h
    -- the blocks can be gathered before the change as well, and only in one way after it
    have hsingle := exists_gathers_iff.mp ⟨result, h⟩
    rw [filter_map_kind hchange (· = .template), filter_map_kind hchange (· = .script),
      List.length_map, List.length_map] at hsingle
    obtain ⟨document, hdocument⟩ := exists_gathers_iff.mpr hsingle
    exact ⟨document, hdocument, gathers_unique (gathers_map hchange hdocument) h⟩
  · rintro ⟨document, h, rfl⟩
    exact gathers_map hchange h

end SfcWeave.Document
