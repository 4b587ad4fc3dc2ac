import SfcWeave.Text.Lowercase

/-!
# Lower case texts

A text in lower case has no other lower case form:

    lowercase_lowercase : lowercase (lowercase text) = lowercase text

No run of the table leads to a code point that is itself in a run. That is seen run by run
(`isSettled_lowerRuns`): either what a run leads to lies outside the other one, or both go in steps
of two and never meet.
-/

namespace SfcWeave.Text

variable {run a b : LowerRun} {runs : List LowerRun} {n m : Nat} {c d : Char}
  {before cs : List Char}

/-! ### Runs of the table -/

namespace LowerRun

/-- A code point of the run. -/
def Covers (run : LowerRun) (n : Nat) : Prop :=
  run.first ≤ n ∧ n ≤ run.last ∧ (n - run.first) % run.step = 0

/-- Where the run leads from a code point. -/
def target (run : LowerRun) (n : Nat) : Nat := (n + run.shift).toNat

/-- Nothing that `a` leads to is in `b`. -/
def isApart (a b : LowerRun) : Bool :=
  (a.target a.last).blt b.first || b.last.blt (a.target a.first) ||
    (a.step == 2 || a.first == a.last) && b.step == 2 && (a.target a.first + b.first) % 2 == 1

/-- The run leads to characters, among which is no capital I with a dot, and no run goes on from
there. -/
def isSettled (run : LowerRun) : Bool :=
  decide (0 ≤ run.first + run.shift) &&
    ((run.target run.last).blt 0x130 || Nat.blt 0x130 (run.target run.first)) &&
    ((run.target run.last).blt 0xD800 || Nat.blt 0xDFFF (run.target run.first)) &&
    (run.target run.last).blt 0x110000 && lowerRuns.all run.isApart

end LowerRun

theorem isSettled_lowerRuns : lowerRuns.all LowerRun.isSettled := by
  decide +kernel

theorem exists_of_lowerRun? (h : lowerRun? n runs = some m) :
    ∃ run ∈ runs, run.Covers n ∧ m = run.target n := by
  fun_induction lowerRun? n runs with
  | case1 => cases h
  | case2 => cases h
  | case3 run rest hfirst hcovers =>
    simp only [Bool.and_eq_true, decide_eq_true_eq, beq_iff_eq] at hcovers
    obtain ⟨hlast, hstep⟩ := hcovers
    exact ⟨run, List.mem_cons_self, ⟨by omega, hlast, hstep⟩, (Option.some.inj h).symm⟩
  | case4 run rest _ _ ih =>
    obtain ⟨found, hmem, hfound⟩ := ih h
    exact ⟨found, List.mem_cons_of_mem run hmem, hfound⟩

theorem lowerRun?_eq_none (h : ∀ run ∈ runs, ¬ run.Covers n) : lowerRun? n runs = none := by
  cases hlower : lowerRun? n runs with
  | none => rfl
  | some m =>
    obtain ⟨run, hmem, hcovers, -⟩ := exists_of_lowerRun? hlower
    exact absurd hcovers (h run hmem)

/-- The capital letters of ASCII are the first run. -/
theorem lowerRun?_ascii (hfirst : 0x41 ≤ n) (hlast : n ≤ 0x5A) :
    lowerRun? n lowerRuns = some (n + 32) := by
  rw [lowerRuns, lowerRun?, if_neg (Nat.not_lt.mpr hfirst),
    if_pos (by simpa [Nat.mod_one] using hlast)]
  rfl

theorem LowerRun.not_covers_target (hshift : 0 ≤ a.first + a.shift) (h : a.isApart b)
    (ha : a.Covers n) : ¬ b.Covers (a.target n) := by
  obtain ⟨hfirst, hlast, hstep⟩ := ha
  simp only [isApart, target, Bool.or_eq_true, Bool.and_eq_true, Nat.blt_eq, beq_iff_eq] at h
  rintro ⟨hfirst', hlast', hstep'⟩
  unfold target at *
  rcases h with (h | h) | ⟨⟨hpar, htwo⟩, hodd⟩
  · omega
  · omega
  · rw [htwo] at hstep'
    rcases hpar with hpar | hpar
    · rw [hpar] at hstep
      omega
    · omega

/-! ### Characters -/

/-- A character that is its own lower case form. -/
def IsLower (c : Char) : Prop := lowerChar c = [c]

instance (c : Char) : Decidable (IsLower c) := inferInstanceAs (Decidable (_ = _))

theorem toNat_ofNat (h : n.isValidChar) : (Char.ofNat n).toNat = n := by
  rw [Char.ofNat, dif_pos h]
  rfl

/-- Where a run leads, no other run goes on. -/
theorem isLower_target (hrun : run ∈ lowerRuns) (hn : run.Covers n) :
    IsLower (Char.ofNat (run.target n)) := by
  have hsettled := List.all_eq_true.mp isSettled_lowerRuns run hrun
  simp only [LowerRun.isSettled, Bool.and_eq_true, Bool.or_eq_true, decide_eq_true_eq,
    Nat.blt_eq] at hsettled
  obtain ⟨⟨⟨⟨hshift, hdotted⟩, hlow⟩, hhigh⟩, hapart⟩ := hsettled
  have hbounds : run.target run.first ≤ run.target n ∧ run.target n ≤ run.target run.last := by
    obtain ⟨hfirst, hlast, -⟩ := hn
    unfold LowerRun.target
    omega
  have hvalid : (run.target n).isValidChar := by
    rcases hlow with hlow | hlow
    · exact .inl (by omega)
    · exact .inr ⟨by omega, by omega⟩
  have hnat := toNat_ofNat hvalid
  have hne : Char.ofNat (run.target n) ≠ '\u0130' := by
    intro heq
    rw [heq] at hnat
    have : '\u0130'.toNat = 0x130 := rfl
    omega
  have hnone : lowerRun? (run.target n) lowerRuns = none := by
    apply lowerRun?_eq_none
    intro other hother
    exact LowerRun.not_covers_target hshift (List.all_eq_true.mp hapart other hother) hn
  rw [IsLower, lowerChar, if_neg hne, hnat, hnone]

theorem isLower_of_mem_lowerChar (h : d ∈ lowerChar c) : IsLower d := by
  unfold lowerChar at h
  split at h
  · rcases List.mem_cons.mp h with rfl | h
    · decide +kernel
    · rw [List.mem_singleton.mp h]
      decide +kernel
  · next hdotted =>
    split at h
    · next hlower =>
      obtain ⟨run, hrun, hcovers, rfl⟩ := exists_of_lowerRun? hlower
      rw [List.mem_singleton.mp h]
      exact isLower_target hrun hcovers
    · next hnone =>
      rw [List.mem_singleton.mp h, IsLower, lowerChar, if_neg hdotted, hnone]

/-- A capital letter of ASCII has another lower case form. -/
theorem not_isLower_ascii (hfirst : 0x41 ≤ c.toNat) (hlast : c.toNat ≤ 0x5A) : ¬ IsLower c := by
  have hdotted : c ≠ '\u0130' := by
    rintro rfl
    exact absurd hlast (by decide)
  rw [IsLower, lowerChar, if_neg hdotted, lowerRun?_ascii hfirst hlast]
  intro h
  have hnat : (Char.ofNat (c.toNat + 32)).toNat = c.toNat + 32 := toNat_ofNat (.inl (by omega))
  rw [List.singleton_inj.mp h] at hnat
  omega

/-! ### Texts -/

theorem isLower_of_mem_lowerFrom (h : d ∈ lowerFrom before cs) : IsLower d := by
  induction cs generalizing before with
  | nil => cases h
  | cons c cs ih =>
    rw [lowerFrom, List.mem_append] at h
    rcases h with h | h
    · split at h
      · -- a sigma has two lower case forms
        rw [List.mem_singleton.mp h]
        split <;> decide +kernel
      · exact isLower_of_mem_lowerChar h
    · exact ih h

theorem lowerFrom_of_isLower (h : ∀ c ∈ cs, IsLower c) : lowerFrom before cs = cs := by
  induction cs generalizing before with
  | nil => rfl
  | cons c cs ih =>
    have hc : IsLower c := h c List.mem_cons_self
    have hsigma : c ≠ 'Σ' := by
      rintro rfl
      exact absurd hc (by decide +kernel)
    have hcs : ∀ d ∈ cs, IsLower d := fun d hd => h d (List.mem_cons_of_mem c hd)
    rw [lowerFrom, if_neg hsigma, hc, ih hcs]
    rfl

theorem isLower_of_mem_lowercase {text : String} (h : c ∈ (lowercase text).toList) :
    IsLower c := by
  rw [lowercase, String.toList_ofList] at h
  exact isLower_of_mem_lowerFrom h

/-- A text in lower case is its own lower case form. -/
theorem lowercase_lowercase (text : String) : lowercase (lowercase text) = lowercase text := by
  have hlower : lowerFrom [] (lowercase text).toList = (lowercase text).toList :=
    lowerFrom_of_isLower fun _ => isLower_of_mem_lowercase
  rw [lowercase.eq_1 (lowercase text), hlower, String.ofList_toList]

end SfcWeave.Text
