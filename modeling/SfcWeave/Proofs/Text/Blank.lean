import SfcWeave.Proofs.Text.Search
import SfcWeave.Text.Blank

/-!
# Trimming

`TrimsTo cs core` says that `core` is what stands between the white space at both ends of a text.
Trimming finds it, and nothing else:

    trim_eq_iff : trim cs = core ↔ TrimsTo cs core
-/

namespace SfcWeave.Text

variable {cs front core back : List Char}

/-- The text is `core` with white space around it, and `core` neither starts nor ends with any. -/
def TrimsTo (cs core : List Char) : Prop :=
  ∃ front back, cs = front ++ core ++ back ∧ (∀ c ∈ front, isBlank c) ∧ (∀ c ∈ back, isBlank c) ∧
    (∀ c ∈ core.head?, isBlank c = false) ∧ ∀ c ∈ core.getLast?, isBlank c = false

theorem dropWhile_isBlank_eq_self (h : ∀ c ∈ cs.head?, isBlank c = false) :
    cs.dropWhile isBlank = cs := by
  cases cs with
  | nil => rfl
  | cons c cs => simp [h c rfl]

theorem head?_dropWhile_isBlank (cs : List Char) :
    ∀ c ∈ (cs.dropWhile isBlank).head?, isBlank c = false := by
  intro c hc
  have h := List.head?_dropWhile_not isBlank cs
  rw [Option.mem_def] at hc
  rw [hc] at h
  simpa using h

theorem trimEnd_append (hback : ∀ c ∈ back, isBlank c)
    (hcore : ∀ c ∈ core.getLast?, isBlank c = false) : trimEnd (core ++ back) = core := by
  have hall : ∀ c ∈ back.reverse, isBlank c := by simpa using hback
  rw [trimEnd, List.reverse_append, List.dropWhile_append_of_pos hall,
    dropWhile_isBlank_eq_self (by simpa using hcore), List.reverse_reverse]

/-- Nothing but white space is trimmed off the end. -/
theorem exists_trimEnd (cs : List Char) :
    ∃ back, cs = trimEnd cs ++ back ∧ (∀ c ∈ back, isBlank c) ∧
      ∀ c ∈ (trimEnd cs).getLast?, isBlank c = false := by
  refine ⟨(cs.reverse.takeWhile isBlank).reverse, ?_, ?_, ?_⟩
  · rw [trimEnd, ← List.reverse_append, List.takeWhile_append_dropWhile, List.reverse_reverse]
  · intro c hc
    exact List.all_eq_true.mp List.all_takeWhile c (List.mem_reverse.mp hc)
  · rw [trimEnd, List.getLast?_reverse]
    exact head?_dropWhile_isBlank cs.reverse

theorem trim_eq_iff : trim cs = core ↔ TrimsTo cs core := by
  constructor
  · rintro rfl
    obtain ⟨back, hrest, hback, hlast⟩ := exists_trimEnd (cs.dropWhile isBlank)
    refine ⟨cs.takeWhile isBlank, back, ?_, ?_, hback, ?_, hlast⟩
    · rw [trim, List.append_assoc, ← hrest, List.takeWhile_append_dropWhile]
    · intro c hc
      exact List.all_eq_true.mp List.all_takeWhile c hc
    · -- what is left after both ends starts where the text does after its front
      intro c hc
      have hstart : (trimEnd (cs.dropWhile isBlank)).head? = some c := hc
      apply head?_dropWhile_isBlank cs c
      rw [hrest, List.head?_append, hstart]
      rfl
  · rintro ⟨front, back, rfl, hfront, hback, hhead, hlast⟩
    rw [trim, List.append_assoc, List.dropWhile_append_of_pos hfront]
    cases core with
    | nil =>
      rw [List.nil_append, ← List.append_nil back, List.dropWhile_append_of_pos hback]
      rfl
    | cons c core =>
      rw [dropWhile_isBlank_eq_self (by simpa using hhead), trimEnd_append hback hlast]

end SfcWeave.Text
