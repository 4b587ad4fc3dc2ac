import SfcWeave.Proofs.Document.Grammar
import SfcWeave.Proofs.Text.Search

/-!
# Contents end at their closing tags

`content?` finds where the content of a block ends:

    content?_eq_some_iff : '<' ∉ tag → (content? tag cs = some (content, rest) ↔
      cs = content ++ closingTag tag ++ rest ∧ IsContent tag content)

For a template the depth of nesting is counted while the text is read, and `Nests` counts both
kinds of tags in every part of the content. The two meet in `nests_cons_iff`, which says what one
character does to the depth.
-/

namespace SfcWeave.Document

open Text (after? splitOnce?)

variable {depth : Nat} {c : Char} {cs content rest run tag : List Char}

/-! ### Tags of templates -/

theorem closesTemplate_iff : closesTemplate cs ↔ closingTag "template".toList <+: cs := by
  rw [closesTemplate, Text.after?_isSome_iff]

/-- The characters that may follow `<template` where a nested template opens. -/
def templateTagEnds : List Char := [' ', '\t', '\n', '\r', '>']

theorem opensTemplate_iff :
    opensTemplate cs ↔ ∃ c ∈ templateTagEnds, "<template".toList ++ [c] <+: cs := by
  unfold opensTemplate
  split
  · next c rest h =>
    obtain rfl := Text.after?_eq_some_iff.mp h
    simp [templateTagEnds, List.cons_prefix_cons, or_assoc]
  · next h =>
    simp only [Bool.false_eq_true, false_iff, not_exists, not_and]
    rintro c _ ⟨rest, rfl⟩
    apply h c rest
    rw [Text.after?_eq_some_iff]
    simp

/-- Whether a template is closed is decided before any character that closing tags do not hold. -/
theorem closesTemplate_append_cons (hne : cs ≠ [])
    (hc : c ∉ (closingTag "template".toList).tail) :
    closesTemplate (cs ++ c :: rest) = closesTemplate cs := by
  rw [Bool.eq_iff_iff, closesTemplate_iff, closesTemplate_iff]
  exact Text.prefix_append_cons_iff hne hc

/-- Whether a template is closed is decided before the next `<`. -/
theorem closesTemplate_append (hne : cs ≠ []) :
    closesTemplate (cs ++ '<' :: rest) = closesTemplate cs :=
  closesTemplate_append_cons hne (by decide)

/-- Whether a template is opened is decided before the next `<`. -/
theorem opensTemplate_append (hne : cs ≠ []) :
    opensTemplate (cs ++ '<' :: rest) = opensTemplate cs := by
  have hmark : ∀ c ∈ templateTagEnds, '<' ∉ ("<template".toList ++ [c]).tail := by
    simp [templateTagEnds]
  rw [Bool.eq_iff_iff, opensTemplate_iff, opensTemplate_iff]
  constructor
  · rintro ⟨c, hc, h⟩
    exact ⟨c, hc, (Text.prefix_append_cons_iff hne (hmark c hc)).mp h⟩
  · rintro ⟨c, hc, h⟩
    exact ⟨c, hc, (Text.prefix_append_cons_iff hne (hmark c hc)).mpr h⟩

/-- Before a character that ends tags, a template is also opened by the mere tag. -/
theorem opensTemplate_append_cons (hc : c ∈ templateTagEnds) :
    opensTemplate (cs ++ c :: rest) ↔ opensTemplate cs ∨ cs = "<template".toList := by
  rw [opensTemplate_iff, opensTemplate_iff]
  constructor
  · rintro ⟨d, hd, h⟩
    rcases List.prefix_or_prefix_of_prefix h (List.prefix_append cs (c :: rest)) with h' | h'
    · exact .inl ⟨d, hd, h'⟩
    rcases List.prefix_concat_iff.mp h' with rfl | ⟨beyond, hbeyond⟩
    · exact .inl ⟨d, hd, List.prefix_refl _⟩
    rw [← hbeyond, List.append_assoc, List.prefix_append_right_inj] at h
    cases beyond with
    | nil => exact .inr (by simpa using hbeyond)
    | cons o beyond =>
      -- the tag would hold one of the characters that end it
      obtain ⟨rfl, -⟩ := List.cons_prefix_cons.mp h
      have hmem : o ∈ "<template".toList := by rw [← hbeyond]; simp
      have hends : ∀ o ∈ templateTagEnds, o ∉ "<template".toList := by
        simp [templateTagEnds]
      exact absurd hmem (hends o hc)
  · rintro (⟨d, hd, h⟩ | rfl)
    · exact ⟨d, hd, h.trans (List.prefix_append ..)⟩
    · exact ⟨c, hc, by simp⟩

theorem closesTemplate_of_ne (h : c ≠ '<') : closesTemplate (c :: cs) = false := by
  rw [Bool.eq_false_iff, ne_eq, closesTemplate_iff]
  intro hprefix
  exact h (List.cons_prefix_cons.mp hprefix).1.symm

theorem opensTemplate_of_ne (h : c ≠ '<') : opensTemplate (c :: cs) = false := by
  rw [Bool.eq_false_iff, ne_eq, opensTemplate_iff]
  rintro ⟨d, _, hprefix⟩
  exact h (List.cons_prefix_cons.mp hprefix).1.symm

/-- No place both closes and opens a template. -/
theorem opensTemplate_of_closesTemplate (h : closesTemplate cs) : opensTemplate cs = false := by
  obtain ⟨rest, rfl⟩ := closesTemplate_iff.mp h
  rfl

/-! ### Nesting -/

theorem nests_nil_iff : Nests depth [] ↔ depth = 0 := by
  constructor
  · intro h
    have htotal := h.closed_eq
    simp only [placesIn] at htotal
    omega
  · rintro rfl
    refine ⟨?_, rfl⟩
    intro before after h
    rw [(List.append_eq_nil_iff.mp h).1]
    simp [placesIn]

/-- One character of a content: it may close a template that is open, or open one. -/
theorem nests_cons_iff :
    Nests depth (c :: cs) ↔
      (if closesTemplate (c :: cs) then 1 else 0) ≤
        depth + (if opensTemplate (c :: cs) then 1 else 0) ∧
      Nests (depth + (if opensTemplate (c :: cs) then 1 else 0) -
        (if closesTemplate (c :: cs) then 1 else 0)) cs := by
  constructor
  · intro h
    have hfirst := h.closed_le [c] cs rfl
    have htotal := h.closed_eq
    simp only [placesIn, List.append_nil, List.cons_append, List.nil_append,
      Nat.add_zero] at hfirst htotal
    refine ⟨hfirst, ?_, ?_⟩
    · intro before after hsplit
      have hcs : (c :: before) ++ after = c :: cs := by
        rw [List.cons_append, hsplit]
      have hle := h.closed_le (c :: before) after hcs
      simp only [placesIn, List.cons_append, hsplit] at hle
      omega
    · omega
  · rintro ⟨hfirst, hrest⟩
    have htotal := hrest.closed_eq
    constructor
    · intro before after hsplit
      cases before with
      | nil => simp [placesIn]
      | cons b before =>
        obtain ⟨rfl, hrun⟩ := List.cons.inj hsplit
        have hle := hrest.closed_le before after hrun
        simp only [placesIn, hsplit]
        omega
    · simp only [placesIn, List.append_nil]
      omega

/-- Whether a content nests can be found out from left to right. -/
instance decidableNests : (depth : Nat) → (content : List Char) → Decidable (Nests depth content)
  | _, [] => decidable_of_iff' _ nests_nil_iff
  | depth, c :: cs =>
    have := decidableNests (depth + (if opensTemplate (c :: cs) then 1 else 0) -
      (if closesTemplate (c :: cs) then 1 else 0)) cs
    decidable_of_iff' _ nests_cons_iff

instance (tag content : List Char) : Decidable (IsContent tag content) :=
  inferInstanceAs (Decidable (if tag = "template".toList then Nests 0 content
    else ¬ closingTag tag <:+: content))

/-- Text without `<` does not change the depth. -/
theorem nests_append_iff (h : '<' ∉ run) : Nests depth (run ++ cs) ↔ Nests depth cs := by
  induction run with
  | nil => rfl
  | cons c run ih =>
    rw [List.mem_cons, not_or] at h
    rw [List.cons_append, nests_cons_iff, closesTemplate_of_ne (Ne.symm h.1),
      opensTemplate_of_ne (Ne.symm h.1)]
    simpa using ih h.2

/-- A closing tag closes a template that is open. -/
theorem nests_closingTag_iff :
    Nests depth (closingTag "template".toList ++ cs) ↔ 0 < depth ∧ Nests (depth - 1) cs := by
  have hcloses : closesTemplate (closingTag "template".toList ++ cs) :=
    closesTemplate_iff.mpr (List.prefix_append ..)
  have hopens := opensTemplate_of_closesTemplate hcloses
  -- only its first character does anything to the depth
  rw [show closingTag "template".toList ++ cs = '<' :: ("/template>".toList ++ cs) from rfl] at *
  rw [nests_cons_iff, hcloses, hopens, nests_append_iff (by decide)]
  rfl

/-! ### Where a template ends -/

/-- Up to the closing tag that is found, templates nest. -/
theorem nests_of_templateContent? (h : templateContent? depth cs = some (content, rest)) :
    cs = content ++ closingTag "template".toList ++ rest ∧ Nests depth content := by
  fun_induction templateContent? depth cs generalizing content with
  | case1 => cases h
  | case2 c cs after hafter =>
    obtain ⟨rfl, rfl⟩ := Prod.mk.inj (Option.some.inj h)
    exact ⟨Text.after?_eq_some_iff.mp hafter, nests_nil_iff.mpr rfl⟩
  | case3 depth c cs after hafter hdepth ih =>
    obtain ⟨⟨inner, after'⟩, hinner, heq⟩ := Option.map_eq_some_iff.mp h
    obtain ⟨rfl, rfl⟩ := Prod.mk.inj heq
    obtain ⟨rfl, hnests⟩ := ih hinner
    refine ⟨?_, nests_closingTag_iff.mpr ⟨Nat.pos_of_ne_zero hdepth, hnests⟩⟩
    rw [Text.after?_eq_some_iff.mp hafter]
    simp only [List.append_assoc]
  | case4 depth c cs hafter ih =>
    obtain ⟨⟨inner, after'⟩, hinner, heq⟩ := Option.map_eq_some_iff.mp h
    obtain ⟨rfl, rfl⟩ := Prod.mk.inj heq
    obtain ⟨rfl, hnests⟩ := ih hinner
    refine ⟨by simp, ?_⟩
    -- what follows the content starts with `<`, and has no part in the tags inside
    have htext : c :: (inner ++ closingTag "template".toList ++ after') =
        (c :: inner) ++ '<' :: ("/template>".toList ++ after') := by
      rw [List.append_assoc]
      rfl
    have hcloses : closesTemplate (c :: inner) = false := by
      rw [← closesTemplate_append (List.cons_ne_nil c inner), ← htext, closesTemplate, hafter]
      rfl
    rw [htext, opensTemplate_append (List.cons_ne_nil c inner)] at hnests
    rw [nests_cons_iff, hcloses]
    simpa using hnests

/-- A text in which templates nest ends at the closing tag that follows it. -/
theorem templateContent?_of_nests (h : Nests depth content) (rest : List Char) :
    templateContent? depth (content ++ closingTag "template".toList ++ rest) =
      some (content, rest) := by
  generalize hcs : content ++ closingTag "template".toList ++ rest = cs
  have htext : ∀ inner, inner ++ closingTag "template".toList ++ rest =
      inner ++ '<' :: ("/template>".toList ++ rest) := by
    intro inner
    rw [List.append_assoc]
    rfl
  -- the search stops at a closing tag, goes on behind one, or passes over a character
  fun_induction templateContent? depth cs generalizing content with
  | case1 =>
    have hlength := congrArg List.length hcs
    simp [closingTag] at hlength
  | case2 c cs after hafter =>
    rw [Text.after?_eq_some_iff, ← hcs] at hafter
    cases content with
    | nil =>
      obtain rfl : rest = after := by simpa [List.append_assoc] using hafter
      rfl
    | cons d inner =>
      -- the content would start with a closing tag, but no template is open
      have hcloses : closesTemplate (d :: inner) := by
        rw [← closesTemplate_append (List.cons_ne_nil d inner), ← htext, closesTemplate_iff, hafter]
        exact List.prefix_append ..
      have hopens := opensTemplate_of_closesTemplate hcloses
      rw [nests_cons_iff, hcloses, hopens] at h
      exact absurd h.1 (by decide)
  | case3 depth c cs after hafter hdepth ih =>
    rw [Text.after?_eq_some_iff, ← hcs] at hafter
    -- some template is open, so the closing tag here is not the one behind the content
    have hne : content ≠ [] := by
      rintro rfl
      exact hdepth (nests_nil_iff.mp h)
    obtain ⟨inner, rfl⟩ : closingTag "template".toList <+: content := by
      rw [← closesTemplate_iff, ← closesTemplate_append hne, ← htext, closesTemplate_iff, hafter]
      exact List.prefix_append ..
    obtain ⟨_, hinner⟩ := nests_closingTag_iff.mp h
    rw [List.append_assoc, List.append_assoc, List.append_cancel_left_eq] at hafter
    rw [ih hinner (by rw [← hafter, List.append_assoc])]
    rfl
  | case4 depth c cs hafter ih =>
    rw [Text.after?_eq_none_iff] at hafter
    cases content with
    | nil =>
      apply absurd _ hafter
      rw [← hcs, List.nil_append]
      exact List.prefix_append ..
    | cons d inner =>
      obtain ⟨rfl, hinner⟩ := List.cons.inj hcs
      have hcloses : closesTemplate (d :: inner) = false := by
        rw [← closesTemplate_append (List.cons_ne_nil d inner), ← htext, hcs, Bool.eq_false_iff,
          ne_eq, closesTemplate_iff]
        exact hafter
      have hopens : opensTemplate (d :: cs) = opensTemplate (d :: inner) := by
        rw [← hcs, htext, opensTemplate_append (List.cons_ne_nil d inner)]
      rw [nests_cons_iff, hcloses, ← hopens] at h
      have hread := ih (by simpa using h) hinner
      rw [dite_eq_ite] at hread
      rw [hread]
      rfl

/-! ### Where a block ends -/

/-- The content of a block is what the grammar lets stand before its closing tag. -/
theorem content?_eq_some_iff (htag : '<' ∉ tag) :
    content? tag cs = some (content, rest) ↔
      cs = content ++ closingTag tag ++ rest ∧ IsContent tag content := by
  unfold content? IsContent
  split
  · next htemplate =>
    rw [htemplate]
    constructor
    · exact nests_of_templateContent?
    · rintro ⟨rfl, hnests⟩
      exact templateContent?_of_nests hnests rest
  · have hfirst : '<' ∉ '/' :: (tag ++ ['>']) := by simp [htag]
    rw [Text.splitOnce?_eq_some_iff (by simp [closingTag])]
    rw [show closingTag tag = '<' :: '/' :: (tag ++ ['>']) from rfl,
      Text.infix_append_dropLast_iff hfirst]

end SfcWeave.Document
