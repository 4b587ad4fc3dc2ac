import Mathlib.Data.List.Forall2
import SfcWeave.Proofs.Text.Indent

/-!
# The common indentation is what is removed

`Deindents text result` says what a text and the text without its common indentation have to do
with each other, line by line and without any counting of runs: in front of every line with content
stands the same number of indent characters, and it is as large as it can be, because some line
with content does not go on with one more. A text has one such result,

    deindent_eq_iff : deindent text = result ↔ Deindents text result

Lines without content do not count when the number is found; they lose as many characters as they
have of it.
-/

namespace SfcWeave.Text

variable {c : Char} {cs line out : List Char} {parts outs : List (List Char)} {m n : Nat}
  {text result : String}

/-! ### Lines -/

/-- `parts` are what stands between the occurrences of a character in a text. -/
structure IsSplit (c : Char) (cs : List Char) (parts : List (List Char)) : Prop where
  ne_nil : parts ≠ []
  not_mem : ∀ part ∈ parts, c ∉ part
  eq_join : cs = join [c] parts

theorem isSplit_iff : IsSplit c cs parts ↔ splitOn c cs = parts := by
  constructor
  · rintro ⟨hne, hc, rfl⟩
    exact splitOn_join hne hc
  · rintro rfl
    exact ⟨splitOn_ne_nil c cs, fun _ => not_mem_of_mem_splitOn, (join_splitOn c cs).symm⟩

/-- `lines` are the lines of a text: what line feeds leave of it, each without one carriage return
at its end if there is any. -/
def HasLines (cs : List Char) (lines : List (List Char)) : Prop :=
  ∃ parts, IsSplit '\n' cs parts ∧ List.Forall₂
    (fun part line => part = line ++ ['\r'] ∨ part = line ∧ part.getLast? ≠ some '\r') parts lines

theorem hasLines_iff : HasLines cs parts ↔ lines cs = parts := by
  unfold HasLines
  simp only [isSplit_iff, exists_eq_left', ← dropReturn_eq_iff]
  rw [← List.forall₂_map_left_iff (R := Eq), List.forall₂_eq_eq_eq]
  rfl

/-! ### Indentation -/

/-- A line and what is left of it when `m` characters `c` are removed: a line with content has
exactly these in front, and one without loses as much as it has. -/
inductive LosesIndent (c : Char) (m : Nat) : (line out : List Char) → Prop
  | content {out : List Char} : isBlankLine (List.replicate m c ++ out) = false →
      LosesIndent c m (List.replicate m c ++ out) out
  | blank {line : List Char} : isBlankLine line →
      LosesIndent c m line (line.drop (min m line.length))

theorem run_replicate_append (m : Nat) (c : Char) (out : List Char) :
    run c (List.replicate m c ++ out) = m + run c out := by
  have hall : ∀ d ∈ List.replicate m c, (d == c) = true := by
    intro d hd
    rw [beq_iff_eq]
    exact List.eq_of_mem_replicate hd
  rw [run, List.takeWhile_append_of_pos hall, List.length_append, List.length_replicate]
  rfl

/-- A line starts with as many characters as its run has. -/
theorem exists_eq_replicate_append (h : m ≤ run c line) :
    line = List.replicate m c ++ line.drop m := by
  have htake : line.take m <+: line.takeWhile (· == c) := by
    apply List.prefix_of_prefix_length_le (List.take_prefix m line) (List.takeWhile_prefix _)
    exact Nat.le_trans (List.length_take_le m line) h
  have hlength : (line.take m).length = m := by
    rw [List.length_take]
    exact Nat.min_eq_left (Nat.le_trans h (List.takeWhile_prefix _).length_le)
  have hreplicate : line.take m = List.replicate m c := by
    rw [List.eq_replicate_iff]
    refine ⟨hlength, ?_⟩
    intro d hd
    have hrun := List.all_eq_true.mp List.all_takeWhile d (htake.subset hd)
    rwa [beq_iff_eq] at hrun
  rw [← hreplicate, List.take_append_drop]

theorem losesIndent_iff :
    LosesIndent c m line out ↔ out = line.drop m ∧ (isBlankLine line = false → m ≤ run c line) := by
  constructor
  · rintro (_ | hblank)
    · refine ⟨?_, fun _ => ?_⟩
      · rw [List.drop_left' List.length_replicate]
      · rw [run_replicate_append]
        exact Nat.le_add_right m _
    · refine ⟨?_, fun hcontent => ?_⟩
      · rw [← List.drop_eq_drop_min]
      · rw [hblank] at hcontent
        cases hcontent
  · rintro ⟨rfl, hrun⟩
    cases hblank : isBlankLine line with
    | true =>
      rw [List.drop_eq_drop_min]
      exact .blank hblank
    | false =>
      have hline := exists_eq_replicate_append (hrun hblank)
      generalize line.drop m = out at hline
      subst hline
      exact .content hblank

/-- Lines lose the same indentation if they are cut there and those with content have it. -/
theorem forall₂_losesIndent_iff : List.Forall₂ (LosesIndent c m) parts outs ↔
    outs = parts.map (List.drop m) ∧ ∀ line ∈ contentLines parts, m ≤ run c line := by
  simp only [mem_contentLines_iff, and_imp]
  constructor
  · intro h
    induction h with
    | nil => simp
    | cons hline hlines ih =>
      obtain ⟨rfl, hrun⟩ := losesIndent_iff.mp hline
      obtain ⟨rfl, hruns⟩ := ih
      exact ⟨rfl, List.forall_mem_cons.mpr ⟨hrun, hruns⟩⟩
  · rintro ⟨rfl, hruns⟩
    rw [List.forall₂_map_right_iff, List.forall₂_same]
    intro line hline
    exact losesIndent_iff.mpr ⟨rfl, hruns line hline⟩

theorem mem_zip_map_iff {f : List Char → List Char} :
    (line, out) ∈ parts.zip (parts.map f) ↔ line ∈ parts ∧ f line = out := by
  have hzip : (parts.map id).zip (parts.map f) = _ := List.zip_map'
  rw [List.map_id] at hzip
  rw [hzip]
  simp

/-- A text and the text without its common indentation. -/
inductive Deindents (text result : String) : Prop
  /-- The first line with content starts with neither a space nor a tab. -/
  | unindented {lines : List (List Char)} {c : Char} {first : List Char}
      {others : List (List Char)} : HasLines text.toList lines →
      contentLines lines = (c :: first) :: others → ¬ (c = ' ' ∨ c = '\t') → result = text →
      Deindents text result
  /-- Every line loses the same indentation, and more could not be taken from all of them. -/
  | indented {lines outs : List (List Char)} {c : Char} {first line out : List Char}
      {others : List (List Char)} {m : Nat} : HasLines text.toList lines →
      contentLines lines = (c :: first) :: others → c = ' ' ∨ c = '\t' →
      IsSplit '\n' result.toList outs → List.Forall₂ (LosesIndent c m) lines outs →
      (line, out) ∈ lines.zip outs → isBlankLine line = false → out.head? ≠ some c →
      Deindents text result
  /-- No line has content, and none loses anything. -/
  | blank {lines : List (List Char)} : HasLines text.toList lines → contentLines lines = [] →
      IsSplit '\n' result.toList lines → Deindents text result

/-- The line with the shortest run does not go on with its character. -/
theorem head?_drop_run (c : Char) (line : List Char) : (line.drop (run c line)).head? ≠ some c := by
  rw [drop_run]
  intro hhead
  have h := List.head?_dropWhile_not (· == c) line
  rw [hhead] at h
  simp at h

theorem deindents_deindent (text : String) : Deindents text (deindent text) := by
  have hindent := commonIndent_commonIndent? (lines text.toList)
  generalize hn : commonIndent? (lines text.toList) = indent at hindent
  have hlines : HasLines text.toList (lines text.toList) := hasLines_iff.mpr rfl
  cases hindent with
  | blank hcontent =>
    apply Deindents.blank hlines hcontent
    rw [isSplit_iff, splitOn_deindent hn]
    exact List.map_id' _
  | unindented hcontent hc =>
    exact .unindented hlines hcontent hc (by simp [deindent, deindent?, hn])
  | @indented c first others n hcontent hc hmax =>
    have hrun := (hmax n).mp (Nat.le_refl n)
    obtain ⟨line, hline, hle⟩ := exists_run_le hmax
    obtain ⟨hmem, hblank⟩ := mem_contentLines_iff.mp hline
    have hsplit := isSplit_iff.mpr (splitOn_deindent hn)
    have hloses := forall₂_losesIndent_iff.mpr ⟨rfl, hrun⟩
    have hpair : (line, line.drop n) ∈ (lines text.toList).zip ((lines text.toList).map _) :=
      mem_zip_map_iff.mpr ⟨hmem, rfl⟩
    refine .indented hlines hcontent hc hsplit hloses hpair hblank ?_
    obtain rfl : n = run c line := Nat.le_antisymm (hrun line hline) hle
    exact head?_drop_run c line

/-- The lines determine their common indentation. -/
theorem CommonIndent.unique {lines : List (List Char)} {indent indent' : Option Nat}
    (h : CommonIndent lines indent) (h' : CommonIndent lines indent') : indent = indent' := by
  cases h with
  | blank hcontent => cases h' <;> simp_all
  | unindented hcontent hc => cases h' <;> simp_all
  | indented hcontent hc hmax =>
    cases h' with
    | blank hcontent' => simp_all
    | unindented hcontent' hc' => simp_all
    | indented hcontent' hc' hmax' =>
      obtain ⟨⟨rfl, -⟩, -⟩ : (_ ∧ _) ∧ _ := by simpa [hcontent] using hcontent'
      rw [Option.some_inj]
      apply Nat.le_antisymm
      · exact (hmax' _).mpr ((hmax _).mp (Nat.le_refl _))
      · exact (hmax _).mpr ((hmax' _).mp (Nat.le_refl _))

theorem commonIndent?_eq {indent : Option Nat} (h : CommonIndent parts indent) :
    commonIndent? parts = indent :=
  (commonIndent_commonIndent? parts).unique h

/-- What all lines with content have, and one of them no more, is the largest they share. -/
theorem le_iff_of_head?_drop_ne (hrun : ∀ line ∈ contentLines parts, m ≤ run c line)
    (hline : line ∈ contentLines parts) (hhead : (line.drop m).head? ≠ some c) :
    ∀ k, k ≤ m ↔ ∀ line ∈ contentLines parts, k ≤ run c line := by
  intro k
  constructor
  · intro hk line hline
    exact Nat.le_trans hk (hrun line hline)
  · intro hk
    refine Nat.le_trans (hk line hline) (Nat.le_of_not_lt ?_)
    intro hlt
    exact hhead (head?_drop_of_lt_run hlt)

theorem deindents_unique (h : Deindents text result) : deindent text = result := by
  cases h with
  | unindented hlines hcontent hc heq =>
    obtain rfl := hasLines_iff.mp hlines
    simp [deindent, deindent?, commonIndent?_eq (.unindented hcontent hc), heq]
  | indented hlines hcontent hc hsplit hloses hmem hblank hhead =>
    obtain rfl := hasLines_iff.mp hlines
    obtain ⟨rfl, hrun⟩ := forall₂_losesIndent_iff.mp hloses
    obtain ⟨hline, rfl⟩ := mem_zip_map_iff.mp hmem
    have hmax := le_iff_of_head?_drop_ne hrun (mem_contentLines_iff.mpr ⟨hline, hblank⟩) hhead
    have hn := commonIndent?_eq (.indented hcontent hc hmax)
    rw [← String.toList_inj, hsplit.eq_join, ← splitOn_deindent hn, join_splitOn]
  | blank hlines hcontent hsplit =>
    obtain rfl := hasLines_iff.mp hlines
    have hself : (lines text.toList).map (List.drop 0) = lines text.toList := List.map_id' _
    rw [← String.toList_inj, hsplit.eq_join, ← hself,
      ← splitOn_deindent (commonIndent?_eq (.blank hcontent)), join_splitOn]

/-- The text without its common indentation is the one that has lost it. -/
theorem deindent_eq_iff : deindent text = result ↔ Deindents text result := by
  constructor
  · rintro rfl
    exact deindents_deindent text
  · exact deindents_unique

end SfcWeave.Text
