import SfcWeave.Json.Printer

/-!
# Strings are printed unambiguously

What is printed for a character tells which one it is and where it ends, and so does what is printed
for a string.
-/

namespace SfcWeave.Json

/-- The characters that are not printed as they are. -/
def escapedChars : List Char := '"' :: '\\' :: (List.range 32).map Char.ofNat

theorem not_lt_of_not_mem {c : Char} (h : c ∉ escapedChars) : ¬ c < ' ' := by
  intro hlt
  have hchar : Char.ofNat c.toNat ∈ (List.range 32).map Char.ofNat :=
    List.mem_map_of_mem (List.mem_range.mpr hlt)
  rw [Char.ofNat_toNat] at hchar
  exact h (List.mem_cons_of_mem _ (List.mem_cons_of_mem _ hchar))

theorem escapeChar_of_not_mem {c : Char} (h : c ∉ escapedChars) : escapeChar c = [c] := by
  unfold escapeChar
  split
  case h_8 => rw [if_neg (not_lt_of_not_mem h)]
  all_goals exact absurd (by decide) h

theorem exists_escapeChar_eq {c : Char} (h : c ∈ escapedChars) :
    ∃ rest, escapeChar c = '\\' :: rest := by
  have hall : escapedChars.all fun c => (escapeChar c).head? = some '\\' := by decide +kernel
  have hhead := List.all_eq_true.mp hall c h
  exact List.head?_eq_some_iff.mp (of_decide_eq_true hhead)

/-- What is printed for a character has no control characters. -/
theorem not_lt_of_mem_escapeChar {c d : Char} (hd : d ∈ escapeChar c) : ¬ d < ' ' := by
  by_cases hc : c ∈ escapedChars
  · have hall : escapedChars.all fun c => (escapeChar c).all fun d => ¬ d < ' ' := by
      decide +kernel
    exact of_decide_eq_true (List.all_eq_true.mp (List.all_eq_true.mp hall c hc) d hd)
  · rw [escapeChar_of_not_mem hc, List.mem_singleton] at hd
    rw [hd]
    exact not_lt_of_not_mem hc

/-- No escape is the start of another one. -/
theorem eq_of_escapeChar_isPrefix {c d : Char} (hc : c ∈ escapedChars) (hd : d ∈ escapedChars)
    (h : escapeChar c <+: escapeChar d) : c = d := by
  have hall : escapedChars.all fun c => escapedChars.all fun d =>
      escapeChar c <+: escapeChar d → c = d := by
    decide +kernel
  have hown := List.all_eq_true.mp (List.all_eq_true.mp hall c hc) d hd
  exact of_decide_eq_true hown h

theorem escapeChar_append_inj {c d : Char} {xs ys : List Char}
    (h : escapeChar c ++ xs = escapeChar d ++ ys) : c = d ∧ xs = ys := by
  have hbackslash : '\\' ∈ escapedChars := by decide
  have hne : ∀ {a b : Char} {as bs : List Char}, a ∉ escapedChars → b ∈ escapedChars →
      escapeChar a ++ as ≠ escapeChar b ++ bs := by
    intro a b as bs ha hb heq
    obtain ⟨rest, hrest⟩ := exists_escapeChar_eq hb
    rw [escapeChar_of_not_mem ha, hrest] at heq
    exact ha ((List.cons.inj heq).1 ▸ hbackslash)
  have hcd : c = d := by
    by_cases hc : c ∈ escapedChars
    · by_cases hd : d ∈ escapedChars
      · rcases List.prefix_or_prefix_of_prefix (List.prefix_append (escapeChar c) xs)
          (h ▸ List.prefix_append (escapeChar d) ys) with hstart | hstart
        · exact eq_of_escapeChar_isPrefix hc hd hstart
        · exact (eq_of_escapeChar_isPrefix hd hc hstart).symm
      · exact absurd h.symm (hne hd hc)
    · by_cases hd : d ∈ escapedChars
      · exact absurd h (hne hc hd)
      · rw [escapeChar_of_not_mem hc, escapeChar_of_not_mem hd] at h
        exact (List.cons.inj h).1
  subst hcd
  exact ⟨rfl, List.append_cancel_left h⟩

/-- No character is printed with a quote in front. -/
theorem escapeChar_append_ne (c : Char) (xs ys : List Char) : escapeChar c ++ xs ≠ '"' :: ys := by
  intro heq
  by_cases hc : c ∈ escapedChars
  · obtain ⟨rest, hrest⟩ := exists_escapeChar_eq hc
    rw [hrest] at heq
    exact absurd (List.cons.inj heq).1 (by decide)
  · rw [escapeChar_of_not_mem hc] at heq
    exact hc ((List.cons.inj heq).1 ▸ (by decide : '"' ∈ escapedChars))

theorem flatMap_escapeChar_append_inj {cs ds xs ys : List Char}
    (h : cs.flatMap escapeChar ++ '"' :: xs = ds.flatMap escapeChar ++ '"' :: ys) :
    cs = ds ∧ xs = ys := by
  induction cs generalizing ds with
  | nil =>
    cases ds with
    | nil => exact ⟨rfl, (List.cons.inj h).2⟩
    | cons d ds =>
      rw [List.flatMap_cons, List.append_assoc] at h
      exact absurd h.symm (escapeChar_append_ne d _ _)
  | cons c cs ih =>
    cases ds with
    | nil =>
      rw [List.flatMap_cons, List.append_assoc] at h
      exact absurd h (escapeChar_append_ne c _ _)
    | cons d ds =>
      simp only [List.flatMap_cons, List.append_assoc] at h
      obtain ⟨rfl, hrest⟩ := escapeChar_append_inj h
      obtain ⟨rfl, hend⟩ := ih hrest
      exact ⟨rfl, hend⟩

/-- A printed string tells which string it is and where it ends. -/
theorem printString_append_inj {s t : String} {xs ys : List Char}
    (h : (printString s).toList ++ xs = (printString t).toList ++ ys) : s = t ∧ xs = ys := by
  simp only [printString, String.toList_ofList, List.cons_append, List.append_assoc] at h
  obtain ⟨hchars, hend⟩ := flatMap_escapeChar_append_inj (List.cons.inj h).2
  exact ⟨String.toList_inj.mp hchars, hend⟩

/-- A printed string has no control characters. -/
theorem not_lt_of_mem_printString {s : String} {c : Char} (h : c ∈ (printString s).toList) :
    ¬ c < ' ' := by
  simp only [printString, String.toList_ofList, List.cons_append, List.mem_cons, List.mem_append,
    List.mem_flatMap, List.not_mem_nil, or_false] at h
  rcases h with rfl | ⟨d, -, hc⟩ | rfl
  · decide
  · exact not_lt_of_mem_escapeChar hc
  · decide

end SfcWeave.Json
