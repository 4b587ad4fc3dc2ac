import SfcWeave.Proofs.Text.Search
import SfcWeave.Text.Indent

/-!
# What removing indentation leaves

Removing the common indentation cuts every line at its start, and drops carriage returns at line
ends. Nothing else happens to the text (`exists_trims`), so that what occurs in a line afterwards
has been in the text before (`infix_of_infix_deindent`), and a text without line feeds never comes
about that way.

A text can lose more indentation when it is deindented again: its first line with content may
have been cut down to a character of another kind, and then the lines share a run of that one. Which
texts keep what they have is said by `IsSettled`, without any counting:

    deindent_eq_self_iff : deindent text = text ↔ IsSettled text

It takes two kinds of indentation in one text for that: a text that is indented uniformly is settled
once it is deindented (`isSettled_deindent`).
-/

namespace SfcWeave.Text

variable {c : Char} {cs cut line needle : List Char} {parts : List (List Char)} {n : Nat}
  {text : String}

/-! ### Lines -/

theorem splitOn_eq (c : Char) (cs : List Char) : splitOn c cs = cs.splitOn c := by
  induction cs with
  | nil => simp [splitOn]
  | cons d cs ih =>
    rw [splitOn, ih, List.splitOn, List.splitOn, List.splitOnP_cons_eq_if_modifyHead]
    split
    · next h => simp [h]
    · next h =>
      cases hparts : List.splitOnP (· == c) cs with
      | nil => simp at hparts
      | cons part parts => simp [h]

theorem join_eq_intercalate (separator : List Char) (parts : List (List Char)) :
    join separator parts = separator.intercalate parts := by
  fun_induction join separator parts with
  | case1 => rfl
  | case2 part => simp
  | case3 part parts hmore ih =>
    rw [ih, List.intercalate_cons_of_ne_nil (by simpa using hmore), List.append_assoc]

theorem join_cons_cons (separator part next : List Char) (parts : List (List Char)) :
    join separator (part :: next :: parts) =
      part ++ separator ++ join separator (next :: parts) := rfl

/-- The parts of a text put it together again. -/
theorem join_splitOn (c : Char) (cs : List Char) : join [c] (splitOn c cs) = cs := by
  rw [splitOn_eq, join_eq_intercalate, List.intercalate_splitOn]

/-- Parts that are put together are told apart again. -/
theorem splitOn_join (hne : parts ≠ []) (hc : ∀ part ∈ parts, c ∉ part) :
    splitOn c (join [c] parts) = parts := by
  rw [splitOn_eq, join_eq_intercalate, List.splitOn_intercalate c hc hne]

theorem splitOn_ne_nil (c : Char) (cs : List Char) : splitOn c cs ≠ [] := by
  rw [splitOn_eq]
  exact List.splitOn_ne_nil c cs

theorem not_mem_of_mem_splitOn (h : line ∈ splitOn c cs) : c ∉ line := by
  fun_induction splitOn c cs generalizing line with
  | case1 => simp_all
  | case2 cs ih =>
    rcases List.mem_cons.mp h with rfl | h
    · simp
    · exact ih h
  | case3 d cs hd part parts hparts ih =>
    rw [hparts, List.forall_mem_cons] at ih
    rcases List.mem_cons.mp h with rfl | h
    · simpa [Ne.symm hd] using ih.1
    · exact ih.2 line h
  | case4 d cs hd hparts => exact absurd hparts (splitOn_ne_nil c cs)

/-- A text without `c` does not reach over a `c`. -/
theorem infix_append_cons_iff {a b : List Char} (hc : c ∉ needle) :
    needle <:+: a ++ c :: b ↔ needle <:+: a ∨ needle <:+: b := by
  constructor
  · intro h
    rcases List.infix_append_iff.mp h with h | h | ⟨front, back, rfl, hfront, hback⟩
    · exact .inl h
    · rcases List.infix_cons_iff.mp h with h | h
      · -- it would start with the `c` itself
        cases needle with
        | nil => exact .inl List.nil_infix
        | cons d needle =>
          obtain ⟨rfl, -⟩ := List.cons_prefix_cons.mp h
          exact absurd List.mem_cons_self hc
      · exact .inr h
    · -- it would reach over the `c`, unless it ends right before
      cases back with
      | nil => simpa using .inl hfront.isInfix
      | cons d back =>
        obtain ⟨rfl, -⟩ := List.cons_prefix_cons.mp hback
        exact absurd (by simp) hc
  · rintro (h | h)
    · exact h.trans (List.prefix_append ..).isInfix
    · exact h.trans ((List.suffix_cons c b).trans (List.suffix_append ..)).isInfix

theorem infix_join_iff (hne : needle ≠ []) (hc : c ∉ needle) {lines : List (List Char)} :
    needle <:+: join [c] lines ↔ ∃ line ∈ lines, needle <:+: line := by
  fun_induction join [c] lines with
  | case1 => simpa using hne
  | case2 part => simp
  | case3 part parts hmore ih =>
    rw [List.append_assoc, List.singleton_append, infix_append_cons_iff hc, ih]
    simp

/-! ### Lines that are cut -/

/-- Only a carriage return is dropped. -/
theorem dropReturn_eq_iff {cut : List Char} :
    dropReturn line = cut ↔ line = cut ++ ['\r'] ∨ line = cut ∧ line.getLast? ≠ some '\r' :=
  getD_before?_eq_iff

theorem exists_dropReturn (line : List Char) :
    ∃ back, line = dropReturn line ++ back ∧ (back = [] ∨ back = ['\r']) := by
  rcases dropReturn_eq_iff.mp (Eq.refl (dropReturn line)) with hline | ⟨hline, -⟩
  · exact ⟨['\r'], hline, .inr rfl⟩
  · exact ⟨[], by rw [List.append_nil, ← hline], .inl rfl⟩

theorem dropReturn_eq_self_iff : dropReturn line = line ↔ line.getLast? ≠ some '\r' := by
  rw [dropReturn_eq_iff]
  simp

theorem not_mem_drop_dropReturn (hline : line ∈ splitOn c cs) : c ∉ (dropReturn line).drop n := by
  intro hmem
  obtain ⟨back, heq, -⟩ := exists_dropReturn line
  apply not_mem_of_mem_splitOn hline
  rw [heq]
  exact List.mem_append_left back (List.mem_of_mem_drop hmem)

/-- The lines with content. -/
def contentLines (lines : List (List Char)) : List (List Char) := lines.filter (!isBlankLine ·)

theorem mem_contentLines_iff :
    line ∈ contentLines parts ↔ line ∈ parts ∧ isBlankLine line = false := by
  simp [contentLines]

theorem le_foldl_min_iff {α : Type} {f : α → Nat} {rest : List α} {first : Nat} :
    n ≤ rest.foldl (fun least a => min least (f a)) first ↔ n ≤ first ∧ ∀ a ∈ rest, n ≤ f a := by
  induction rest generalizing first with
  | nil => simp
  | cons a rest ih => rw [List.foldl_cons, ih, Nat.le_min, List.forall_mem_cons, and_assoc]

/-- How much can be removed in front of all lines: nothing needs to be if no line has content,
nothing can be if the first line with content is not indented, and otherwise as much as all lines
with content have of its first character. -/
inductive CommonIndent (lines : List (List Char)) : Option Nat → Prop
  | blank : contentLines lines = [] → CommonIndent lines (some 0)
  | unindented {c first others} : contentLines lines = (c :: first) :: others →
      ¬ (c = ' ' ∨ c = '\t') → CommonIndent lines none
  | indented {c first others n} : contentLines lines = (c :: first) :: others →
      c = ' ' ∨ c = '\t' → (∀ k, k ≤ n ↔ ∀ line ∈ contentLines lines, k ≤ run c line) →
      CommonIndent lines (some n)

theorem commonIndent_commonIndent? (lines : List (List Char)) :
    CommonIndent lines (commonIndent? lines) := by
  unfold commonIndent?
  split
  · next h => exact .blank h
  · next first others h =>
    split
    · next c first =>
      split
      · next hc =>
        apply CommonIndent.indented h hc
        intro k
        rw [le_foldl_min_iff, contentLines, h, List.forall_mem_cons]
      · next hc => exact .unindented h hc
    · -- a line without a character is blank
      have hmem : [] ∈ contentLines lines := by rw [contentLines, h]; exact List.mem_cons_self
      simp [mem_contentLines_iff, isBlankLine] at hmem

/-- What is taken from a line is white space. -/
theorem isBlank_of_mem_take (h : CommonIndent parts (some n)) (hline : line ∈ parts)
    (hc : c ∈ line.take n) : isBlank c := by
  cases hblank : isBlankLine line with
  | true => exact List.all_eq_true.mp hblank c (List.mem_of_mem_take hc)
  | false =>
    cases h with
    | blank => simp at hc
    | @indented d first others _ hcontent hd hn =>
      have hle := (hn n).mp (Nat.le_refl n) line (mem_contentLines_iff.mpr ⟨hline, hblank⟩)
      -- no more is taken than the run of `d`
      have htake : line.take n <+: line.takeWhile (· == d) := by
        apply List.prefix_of_prefix_length_le (List.take_prefix n line) (List.takeWhile_prefix _)
        exact Nat.le_trans (List.length_take_le n line) hle
      have hrun := List.all_eq_true.mp List.all_takeWhile c (htake.subset hc)
      rw [beq_iff_eq] at hrun
      rw [hrun]
      rcases hd with rfl | rfl
      · decide
      · decide

/-- A line and what deindenting leaves of it: white space may be gone in front, and a carriage
return at the end. -/
inductive Trims : (line cut : List Char) → Prop
  | cut {front cut back} : (∀ c ∈ front, isBlank c) → back = [] ∨ back = ['\r'] →
      Trims (front ++ cut ++ back) cut

theorem infix_of_trims (h : Trims line cut) : cut <:+: line := by
  cases h with
  | cut => exact List.infix_append ..

/-- A line loses the common indentation. -/
theorem trims_drop (h : CommonIndent (lines cs) (some n)) (hline : line ∈ splitOn '\n' cs) :
    Trims line ((dropReturn line).drop n) := by
  obtain ⟨back, heq, hback⟩ := exists_dropReturn line
  have hmem : dropReturn line ∈ lines cs := List.mem_map_of_mem hline
  have htrims : Trims ((dropReturn line).take n ++ (dropReturn line).drop n ++ back)
      ((dropReturn line).drop n) :=
    .cut (fun c hc => isBlank_of_mem_take h hmem hc) hback
  rwa [List.take_append_drop, ← heq] at htrims

theorem toList_deindent (h : commonIndent? (lines text.toList) = some n) :
    (deindent text).toList =
      join ['\n'] ((splitOn '\n' text.toList).map fun line => (dropReturn line).drop n) := by
  unfold deindent deindent?
  dsimp only
  rw [h, Option.map_some, Option.getD_some, String.toList_ofList, lines, List.map_map]
  rfl

/-- The lines of a deindented text are those of the text, cut in front. -/
theorem splitOn_deindent (h : commonIndent? (lines text.toList) = some n) :
    splitOn '\n' (deindent text).toList = (lines text.toList).map (List.drop n) := by
  rw [toList_deindent h, splitOn_join, lines, List.map_map]
  · rfl
  · simpa using splitOn_ne_nil '\n' text.toList
  · rw [List.forall_mem_map]
    intro line hline
    exact not_mem_drop_dropReturn hline

/-- Deindenting trims every line, and does nothing else. -/
theorem exists_trims (text : String) :
    ∃ trim, (∀ line ∈ splitOn '\n' text.toList, Trims line (trim line)) ∧
      (deindent text).toList = join ['\n'] ((splitOn '\n' text.toList).map trim) := by
  have hindent := commonIndent_commonIndent? (lines text.toList)
  cases hn : commonIndent? (lines text.toList) with
  | none =>
    refine ⟨id, ?_, ?_⟩
    · intro line _
      have htrims : Trims ([] ++ line ++ []) line := .cut (by simp) (.inl rfl)
      simpa using htrims
    · rw [List.map_id, join_splitOn, deindent, deindent?, hn]
      rfl
  | some n =>
    rw [hn] at hindent
    exact ⟨_, fun line hline => trims_drop hindent hline, toList_deindent hn⟩

/-- The indentation that a line loses, when there is some to remove. -/
def lostIndent (indent : Option Nat) (line : List Char) : List Char :=
  (dropReturn line).take (indent.getD 0)

/-- What is left of a line when an indentation is removed; it is the line itself when there is
nothing to remove. -/
def cutLine : Option Nat → List Char → List Char
  | none, line => line
  | some n, line => (dropReturn line).drop n

/-- A line keeps what follows its indentation, but for a carriage return. -/
theorem exists_cutLine (indent : Option Nat) (line : List Char) :
    ∃ back, line = lostIndent indent line ++ cutLine indent line ++ back ∧
      (back = [] ∨ back = ['\r']) := by
  cases indent with
  | none => exact ⟨[], by simp [lostIndent, cutLine], .inl rfl⟩
  | some n =>
    obtain ⟨back, hline, hback⟩ := exists_dropReturn line
    refine ⟨back, ?_, hback⟩
    rw [lostIndent, cutLine, Option.getD_some, List.take_append_drop]
    exact hline

/-- A deindented text has the lines of the text, each cut. -/
theorem splitOn_deindent_eq_map (text : String) :
    splitOn '\n' (deindent text).toList =
      (splitOn '\n' text.toList).map (cutLine (commonIndent? (lines text.toList))) := by
  cases hindent : commonIndent? (lines text.toList) with
  | none =>
    have hself : deindent text = text := by simp [deindent, deindent?, hindent]
    rw [hself]
    exact (List.map_id _).symm
  | some n =>
    rw [splitOn_deindent hindent, lines, List.map_map]
    rfl

/-- A text without line feeds that occurs once the indentation is gone has been there before. -/
theorem infix_of_infix_deindent (hne : needle ≠ []) (hc : '\n' ∉ needle)
    (h : needle <:+: (deindent text).toList) : needle <:+: text.toList := by
  obtain ⟨trim, htrims, heq⟩ := exists_trims text
  rw [heq, infix_join_iff hne hc] at h
  obtain ⟨cut, hcut, hinfix⟩ := h
  obtain ⟨line, hline, rfl⟩ := List.mem_map.mp hcut
  rw [← join_splitOn '\n' text.toList, infix_join_iff hne hc]
  exact ⟨line, hline, hinfix.trans (infix_of_trims (htrims line hline))⟩

/-! ### Texts without common indentation -/

/-- There is nothing to remove from the text: either its first line with content starts with
neither a space nor a tab, or no line ends in a carriage return and not all lines with content start
with the same character, as far as there are any. -/
def IsSettled (text : String) : Prop :=
  let contents := contentLines (lines text.toList)
  (∃ first ∈ contents.head?, first.head? ≠ some ' ' ∧ first.head? ≠ some '\t') ∨
  (∀ line ∈ splitOn '\n' text.toList, line.getLast? ≠ some '\r') ∧
    ∀ first ∈ contents.head?, ∃ line ∈ contents, line.head? ≠ first.head?

instance : DecidablePred IsSettled := fun _ =>
  inferInstanceAs (Decidable (_ ∨ _))

theorem run_eq_zero_iff : run c line = 0 ↔ line.head? ≠ some c := by
  cases line with
  | nil => simp [run]
  | cons d line =>
    by_cases h : d = c <;> simp [run, h]

/-- A line is cut nowhere if it has no carriage return at its end and nothing is taken in front. -/
theorem drop_dropReturn_eq_self_iff :
    (dropReturn line).drop n = line ↔ line.getLast? ≠ some '\r' ∧ (n = 0 ∨ line = []) := by
  rw [← dropReturn_eq_self_iff]
  constructor
  · intro h
    have hlength := congrArg List.length h
    obtain ⟨back, hline, -⟩ := exists_dropReturn line
    have hback := congrArg List.length hline
    rw [List.length_append] at hback
    rw [List.length_drop] at hlength
    have hnil : back = [] := List.length_eq_zero_iff.mp (by omega)
    rw [hnil, List.append_nil] at hline
    refine ⟨hline.symm, ?_⟩
    rw [← List.length_eq_zero_iff]
    omega
  · rintro ⟨hreturn, rfl | rfl⟩
    · rw [hreturn, List.drop_zero]
    · rw [hreturn, List.drop_nil]

/-- A text is what it was if every line is. -/
theorem join_map_splitOn_eq_self_iff {f : List Char → List Char}
    (hf : ∀ line ∈ splitOn c cs, c ∉ f line) :
    join [c] ((splitOn c cs).map f) = cs ↔ ∀ line ∈ splitOn c cs, f line = line := by
  constructor
  · intro h
    have hparts : splitOn c (join [c] ((splitOn c cs).map f)) = (splitOn c cs).map f :=
      splitOn_join (by simpa using splitOn_ne_nil c cs) (by simpa using hf)
    rw [h] at hparts
    have hid : (splitOn c cs).map f = (splitOn c cs).map id := by
      rw [List.map_id, ← hparts]
    exact List.map_inj_left.mp hid
  · intro h
    rw [List.map_congr_left h, List.map_id', join_splitOn]

/-- Nothing is cut if no line ends in a carriage return and there is no common indentation. -/
theorem deindent_eq_self_of_some (h : commonIndent? (lines text.toList) = some n) :
    deindent text = text ↔
      ∀ line ∈ splitOn '\n' text.toList, line.getLast? ≠ some '\r' ∧ (n = 0 ∨ line = []) := by
  rw [← String.toList_inj, toList_deindent h, join_map_splitOn_eq_self_iff]
  · simp only [drop_dropReturn_eq_self_iff]
  · intro line hline
    exact not_mem_drop_dropReturn hline

/-- Some line has no longer run than all of them share. -/
theorem exists_run_le (h : ∀ k, k ≤ n ↔ ∀ line ∈ parts, k ≤ run c line) :
    ∃ line ∈ parts, run c line ≤ n := by
  have hmore : ¬ ∀ line ∈ parts, n + 1 ≤ run c line := by
    rw [← h]
    omega
  simpa [Nat.lt_succ_iff] using hmore

/-- Lines share no run of a character exactly if one of them starts with another. -/
theorem eq_zero_iff_of_le_run (h : ∀ k, k ≤ n ↔ ∀ line ∈ parts, k ≤ run c line) :
    n = 0 ↔ ∃ line ∈ parts, line.head? ≠ some c := by
  constructor
  · rintro rfl
    obtain ⟨line, hline, hle⟩ := exists_run_le h
    exact ⟨line, hline, run_eq_zero_iff.mp (Nat.le_zero.mp hle)⟩
  · rintro ⟨line, hline, hhead⟩
    have hle := (h n).mp (Nat.le_refl n) line hline
    rw [run_eq_zero_iff.mpr hhead] at hle
    exact Nat.le_zero.mp hle

/-- A text keeps what it has exactly if it is settled. -/
theorem deindent_eq_self_iff : deindent text = text ↔ IsSettled text := by
  have hindent := commonIndent_commonIndent? (lines text.toList)
  generalize hn : commonIndent? (lines text.toList) = indent at hindent
  unfold IsSettled
  cases hindent with
  | blank hcontent =>
    rw [deindent_eq_self_of_some hn]
    simp [hcontent]
  | unindented hcontent hc =>
    simp [deindent, deindent?, hn, hcontent, not_or.mp hc]
  | @indented c first others n hcontent hc hmax =>
    rw [deindent_eq_self_of_some hn]
    have hhead : (contentLines (lines text.toList)).head? = some (c :: first) := by
      rw [hcontent]
      rfl
    have hmem : c :: first ∈ contentLines (lines text.toList) := by
      rw [hcontent]
      exact List.mem_cons_self
    obtain ⟨line, hline, heq⟩ := List.mem_map.mp (mem_contentLines_iff.mp hmem).1
    constructor
    · intro h
      refine .inr ⟨fun line hline => (h line hline).1, ?_⟩
      intro first' hfirst
      obtain rfl := Option.some.inj (hhead.symm.trans hfirst)
      -- the line that the first one comes from is not empty
      rcases (h line hline).2 with hzero | rfl
      · exact (eq_zero_iff_of_le_run hmax).mp hzero
      · cases heq
    · rintro (⟨first', hfirst, hunindented⟩ | ⟨hreturns, hother⟩)
      · obtain rfl := Option.some.inj (hhead.symm.trans hfirst)
        rcases hc with rfl | rfl
        · exact absurd rfl hunindented.1
        · exact absurd rfl hunindented.2
      · intro line hline
        exact ⟨hreturns line hline, .inl ((eq_zero_iff_of_le_run hmax).mpr (hother _ hhead))⟩

/-! ### Texts of uniform indentation -/

/-- The lines with content are indented with one character only, and carriage returns stand at line
ends one at a time. -/
def IsUniform (text : String) : Prop :=
  (∀ line ∈ lines text.toList, line.getLast? ≠ some '\r') ∧
  ∃ c, ∀ line ∈ contentLines (lines text.toList),
    (line.dropWhile (· == c)).head? ≠ some ' ' ∧ (line.dropWhile (· == c)).head? ≠ some '\t'

/-- A line without its indentation has content if the line has. -/
theorem contentLines_map_drop (h : CommonIndent parts (some n)) :
    contentLines (parts.map (List.drop n)) = (contentLines parts).map (List.drop n) := by
  unfold contentLines
  rw [List.filter_map]
  congr 1
  apply List.filter_congr
  intro line hline
  have htake : (line.take n).all isBlank :=
    List.all_eq_true.mpr fun c hc => isBlank_of_mem_take h hline hc
  have hsplit : isBlankLine line = isBlankLine (line.drop n) := by
    rw [isBlankLine, ← List.take_append_drop n line, List.all_append, htake]
    simp [isBlankLine]
  rw [Function.comp_apply, hsplit]

theorem getLast?_drop_ne (h : line.getLast? ≠ some c) : (line.drop n).getLast? ≠ some c := by
  rw [List.getLast?_drop]
  split
  · simp
  · exact h

theorem contentLines_deindent (h : commonIndent? (lines text.toList) = some n)
    (hreturns : ∀ line ∈ lines text.toList, line.getLast? ≠ some '\r') :
    contentLines (lines (deindent text).toList) =
      (contentLines (lines text.toList)).map (List.drop n) := by
  have hindent := commonIndent_commonIndent? (lines text.toList)
  rw [h] at hindent
  have hcut : ∀ line ∈ lines text.toList, dropReturn (line.drop n) = line.drop n := by
    intro line hline
    exact dropReturn_eq_self_iff.mpr (getLast?_drop_ne (hreturns line hline))
  rw [← contentLines_map_drop hindent, lines, splitOn_deindent h, List.map_map]
  exact congrArg contentLines (List.map_congr_left hcut)

theorem drop_run (c : Char) (line : List Char) :
    line.drop (run c line) = line.dropWhile (· == c) := by
  have hdrop : (line.takeWhile (· == c) ++ line.dropWhile (· == c)).drop (run c line) =
      line.dropWhile (· == c) := List.drop_left
  rwa [List.takeWhile_append_dropWhile] at hdrop

/-- Within the run of a character, that is the next one. -/
theorem head?_drop_of_lt_run (h : n < run c line) : (line.drop n).head? = some c := by
  have hprefix := List.takeWhile_prefix (· == c) (l := line)
  have hchar := List.all_eq_true.mp List.all_takeWhile _ (List.getElem_mem h)
  rw [beq_iff_eq, hprefix.getElem h] at hchar
  rw [List.head?_drop, List.getElem?_eq_getElem (Nat.lt_of_lt_of_le h hprefix.length_le), hchar]

/-- A text of uniform indentation is settled once it is deindented. -/
theorem isSettled_deindent (h : IsUniform text) : IsSettled (deindent text) := by
  obtain ⟨hreturns, d, huniform⟩ := h
  have hindent := commonIndent_commonIndent? (lines text.toList)
  generalize hn : commonIndent? (lines text.toList) = indent at hindent
  have hnone : ∀ n, commonIndent? (lines text.toList) = some n →
      ∀ line ∈ splitOn '\n' (deindent text).toList, line.getLast? ≠ some '\r' := by
    intro n hn
    rw [splitOn_deindent hn, List.forall_mem_map]
    intro line hline
    exact getLast?_drop_ne (hreturns line hline)
  cases hindent with
  | unindented hcontent hc =>
    have hself : deindent text = text := by simp [deindent, deindent?, hn]
    rw [hself, ← deindent_eq_self_iff, hself]
  | blank hcontent =>
    refine .inr ⟨hnone 0 hn, ?_⟩
    simp [contentLines_deindent hn hreturns, hcontent]
  | @indented c first others n hcontent hc hmax =>
    have hfirst : c :: first ∈ contentLines (lines text.toList) := by
      rw [hcontent]
      exact List.mem_cons_self
    -- the first line is indented, and so this is the character of the indentation
    obtain rfl : c = d := by
      have hhead := huniform _ hfirst
      by_cases hd : c = d
      · exact hd
      · rcases hc with rfl | rfl
        · simp [hd] at hhead
        · simp [hd] at hhead
    have hleast : ∀ line ∈ contentLines (lines text.toList), run c line ≤ n →
        (line.drop n).head? ≠ some ' ' ∧ (line.drop n).head? ≠ some '\t' := by
      intro line hline hle
      obtain rfl : n = run c line := Nat.le_antisymm ((hmax n).mp (Nat.le_refl n) line hline) hle
      rw [drop_run]
      exact huniform line hline
    unfold IsSettled
    rw [contentLines_deindent hn hreturns]
    by_cases hrun : run c (c :: first) ≤ n
    · refine .inl ⟨(c :: first).drop n, ?_, hleast _ hfirst hrun⟩
      rw [hcontent]
      rfl
    · refine .inr ⟨hnone n hn, ?_⟩
      obtain ⟨line, hline, hle⟩ := exists_run_le hmax
      intro first' hfirst'
      rw [hcontent] at hfirst'
      obtain rfl := Option.some.inj hfirst'
      refine ⟨line.drop n, List.mem_map_of_mem hline, ?_⟩
      rw [head?_drop_of_lt_run (Nat.lt_of_not_le hrun)]
      rcases hc with rfl | rfl
      · exact (hleast line hline hle).1
      · exact (hleast line hline hle).2

end SfcWeave.Text
