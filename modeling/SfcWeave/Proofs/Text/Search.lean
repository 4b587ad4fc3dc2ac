import SfcWeave.Text.Search

/-!
# What a search finds

`after?` and `splitOnce?` compute with characters. Here they are characterised by the two
relations of lists that everything else is stated with, `needle <+: cs` (the text starts with it)
and `needle <:+: cs` (it occurs):

    after?_eq_some_iff     : after? front cs = some rest ↔ cs = front ++ rest
    splitOnce?_eq_some_iff : splitOnce? needle cs = some (before, rest) ↔
      cs = before ++ needle ++ rest ∧ ¬ needle <:+: before ++ needle.dropLast

The second condition says that the occurrence is the first one: none ends sooner. A text whose
first character does not come back in it cannot overlap with itself, and then it is enough that it
does not occur in `before` (`infix_append_dropLast_iff`).
-/

namespace SfcWeave.Text

variable {needle cs before rest : List Char}

theorem after?_eq_some_iff {front : List Char} :
    after? front cs = some rest ↔ cs = front ++ rest := by
  constructor
  · exact eq_append_of_after?
  · rintro rfl
    exact after?_append front rest

theorem after?_isSome_iff : (after? needle cs).isSome ↔ needle <+: cs := by
  rw [Option.isSome_iff_exists]
  constructor
  · rintro ⟨rest, h⟩
    exact ⟨rest, (after?_eq_some_iff.mp h).symm⟩
  · rintro ⟨rest, h⟩
    exact ⟨rest, after?_eq_some_iff.mpr h.symm⟩

theorem after?_eq_none_iff : after? needle cs = none ↔ ¬ needle <+: cs := by
  rw [← after?_isSome_iff, Option.not_isSome_iff_eq_none]

/-! ### The end of a text -/

theorem before?_eq_some_iff {front back : List Char} :
    before? back cs = some front ↔ cs = front ++ back := by
  rw [before?, Option.map_eq_some_iff]
  constructor
  · rintro ⟨rest, hrest, rfl⟩
    have hcs := congrArg List.reverse (after?_eq_some_iff.mp hrest)
    simpa using hcs
  · rintro rfl
    exact ⟨front.reverse, after?_eq_some_iff.mpr List.reverse_append, List.reverse_reverse _⟩

/-- A text loses a character at its end if it has it there, and is left alone otherwise. -/
theorem getD_before?_eq_iff {c : Char} {cut : List Char} :
    (before? [c] cs).getD cs = cut ↔ cs = cut ++ [c] ∨ cs = cut ∧ cs.getLast? ≠ some c := by
  cases hcut : before? [c] cs with
  | some front =>
    obtain rfl := before?_eq_some_iff.mp hcut
    simp
  | none =>
    have hlast : cs.getLast? ≠ some c := by
      intro hlast
      obtain ⟨front, hfront⟩ := List.getLast?_eq_some_iff.mp hlast
      rw [before?_eq_some_iff.mpr hfront] at hcut
      cases hcut
    rw [Option.getD_none]
    constructor
    · intro h
      exact .inr ⟨h, hlast⟩
    · rintro (rfl | ⟨h, -⟩)
      · simp at hlast
      · exact h

/-! ### The first occurrence -/

/-- A text is as long as what it is a prefix of, but for what follows. -/
theorem not_infix_dropLast (hne : needle ≠ []) : ¬ needle <:+: needle.dropLast := by
  intro h
  have hle := h.length_le
  have hpos := List.length_pos_iff.mpr hne
  rw [List.length_dropLast] at hle
  omega

/-- Whether a text is a prefix is decided within its length: the last character of an occurrence
that follows does not matter, nor does anything after it. -/
theorem prefix_cons_append_dropLast_iff (hne : needle ≠ []) {c : Char} :
    needle <+: c :: (before ++ needle.dropLast) ↔ needle <+: c :: (before ++ needle ++ rest) := by
  have hsplit : needle.dropLast <+: needle ++ rest :=
    (List.dropLast_prefix needle).trans (List.prefix_append needle rest)
  have hlong : c :: (before ++ needle.dropLast) <+: c :: (before ++ needle ++ rest) := by
    rw [List.append_assoc, List.cons_prefix_cons, List.prefix_append_right_inj]
    exact ⟨rfl, hsplit⟩
  constructor
  · intro h
    exact h.trans hlong
  · intro h
    apply List.prefix_of_prefix_length_le h hlong
    have hpos := List.length_pos_iff.mpr hne
    simp only [List.length_cons, List.length_append, List.length_dropLast]
    omega

theorem firstCut?_eq_some_iff (hne : needle ≠ []) {found : List Char} :
    firstCut? needle cs = some (before, found) ↔
      cs = before ++ found ∧ needle <+: found ∧ ¬ needle <:+: before ++ needle.dropLast := by
  -- the induction is on the text, and what is cut off in front grows with it
  induction cs generalizing before with
  | nil =>
    simp only [firstCut?, if_neg hne, reduceCtorEq, false_iff, not_and]
    intro h hprefix
    rw [(List.append_eq_nil_iff.mp h.symm).2, List.prefix_nil] at hprefix
    exact absurd hprefix hne
  | cons c cs ih =>
    rw [firstCut?]
    split
    · next hhere =>
      rw [after?_isSome_iff] at hhere
      constructor
      · intro h
        obtain ⟨rfl, rfl⟩ : [] = before ∧ c :: cs = found := by simpa using h
        exact ⟨rfl, hhere, not_infix_dropLast hne⟩
      · rintro ⟨hcs, hfound, hfirst⟩
        -- the occurrence at the front would come before the one at `found`
        cases before with
        | nil => rw [hcs]; rfl
        | cons b before =>
          obtain ⟨rest, rfl⟩ := hfound
          obtain ⟨rfl, rfl⟩ := List.cons.inj hcs
          have hstarts : needle <+: c :: (before ++ needle ++ rest) := by simpa using hhere
          exact absurd ((prefix_cons_append_dropLast_iff hne).mpr hstarts).isInfix hfirst
    · next hhere =>
      -- nothing starts here, so the first occurrence is that of the rest
      rw [after?_isSome_iff] at hhere
      constructor
      · intro h
        obtain ⟨⟨before', found'⟩, hcut, heq⟩ := Option.map_eq_some_iff.mp h
        obtain ⟨rfl, rfl⟩ : c :: before' = before ∧ found' = found := by simpa using heq
        obtain ⟨rfl, hfound, hfirst⟩ := ih.mp hcut
        refine ⟨rfl, hfound, ?_⟩
        obtain ⟨rest, rfl⟩ := hfound
        rw [List.cons_append, List.infix_cons_iff, not_or]
        refine ⟨?_, hfirst⟩
        intro hstarts
        have hmore : needle <+: c :: (before' ++ needle ++ rest) :=
          (prefix_cons_append_dropLast_iff hne).mp hstarts
        exact hhere (by simpa using hmore)
      · rintro ⟨hcs, hfound, hfirst⟩
        cases before with
        | nil => rw [hcs] at hhere; exact absurd hfound hhere
        | cons b before =>
          obtain ⟨rfl, rfl⟩ := List.cons.inj hcs
          have htail : ¬ needle <:+: before ++ needle.dropLast := by
            intro h
            exact hfirst (h.trans (List.suffix_cons _ _).isInfix)
          rw [ih.mpr ⟨rfl, hfound, htail⟩]
          rfl

/-- A text is split at the first occurrence of `needle`: no occurrence ends before that one. -/
theorem splitOnce?_eq_some_iff (hne : needle ≠ []) :
    splitOnce? needle cs = some (before, rest) ↔
      cs = before ++ needle ++ rest ∧ ¬ needle <:+: before ++ needle.dropLast := by
  rw [splitOnce?, Option.map_eq_some_iff]
  constructor
  · rintro ⟨⟨before', found⟩, hcut, heq⟩
    obtain ⟨rfl, rfl⟩ : before' = before ∧ found.drop needle.length = rest := by simpa using heq
    obtain ⟨rfl, ⟨rest, rfl⟩, hfirst⟩ := (firstCut?_eq_some_iff hne).mp hcut
    refine ⟨?_, hfirst⟩
    rw [List.drop_left, List.append_assoc]
  · rintro ⟨rfl, hfirst⟩
    refine ⟨(before, needle ++ rest), ?_, by simp⟩
    rw [firstCut?_eq_some_iff hne]
    exact ⟨List.append_assoc .., List.prefix_append .., hfirst⟩

theorem splitOnce?_eq_none_iff (hne : needle ≠ []) :
    splitOnce? needle cs = none ↔ ¬ needle <:+: cs := by
  rw [splitOnce?, Option.map_eq_none_iff]
  induction cs with
  | nil => simp [firstCut?, hne]
  | cons c cs ih =>
    rw [firstCut?, List.infix_cons_iff, ← after?_isSome_iff, not_or, ← ih]
    split
    · next h => simp [h]
    · next h => simp [h]

/-! ### Texts that do not overlap -/

/-- A text in which `c` comes first, if at all, does not reach over a `c`. -/
theorem prefix_append_cons_iff {c : Char} {front tail : List Char} (hfront : front ≠ [])
    (hc : c ∉ needle.tail) : needle <+: front ++ c :: tail ↔ needle <+: front := by
  constructor
  · intro h
    rcases List.prefix_or_prefix_of_prefix h (List.prefix_append front (c :: tail)) with h' | h'
    · exact h'
    · -- `needle` runs over the end of `front`, and there it holds `c`
      obtain ⟨beyond, rfl⟩ := h'
      rw [List.prefix_append_right_inj] at h
      cases beyond with
      | nil => simp
      | cons o beyond =>
        obtain ⟨rfl, _⟩ := List.cons_prefix_cons.mp h
        apply absurd _ hc
        rw [List.tail_append_of_ne_nil hfront]
        simp
  · intro h
    exact h.trans (List.prefix_append ..)

/-- Two occurrences of a text whose first character does not come back in it do not overlap. -/
theorem infix_append_dropLast_iff {c : Char} {tail : List Char} (hc : c ∉ tail) :
    c :: tail <:+: before ++ (c :: tail).dropLast ↔ c :: tail <:+: before := by
  constructor
  · intro h
    induction before with
    | nil => exact absurd h (not_infix_dropLast (List.cons_ne_nil c tail))
    | cons b before ih =>
      rw [List.cons_append, List.infix_cons_iff] at h
      rcases h with h | h
      · -- an occurrence at the front ends before the other one starts
        cases tail with
        | nil => simpa using h.isInfix
        | cons t tail =>
          rw [List.dropLast_cons_cons, ← List.cons_append] at h
          exact ((prefix_append_cons_iff (List.cons_ne_nil b before) hc).mp h).isInfix
      · exact (ih h).trans (List.suffix_cons b before).isInfix
  · intro h
    exact h.trans (List.prefix_append ..).isInfix

end SfcWeave.Text
