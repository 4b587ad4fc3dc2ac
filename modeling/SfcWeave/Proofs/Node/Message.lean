import Mathlib.Data.List.Basic
import SfcWeave.Node.Message
import SfcWeave.Proofs.Json.Printer

/-!
# Requests are printed unambiguously

The line of a request tells its number, its kind and its source. A line that is no response is
reported as unreadable.
-/

namespace SfcWeave

theorem toList_toString (n : Nat) : (toString n).toList = Nat.toDigits 10 n := by
  simp [Nat.repr]

theorem comma_not_mem_toString (n : Nat) : ',' ∉ (toString n).toList := by
  intro hmem
  rw [toList_toString] at hmem
  exact absurd (Nat.isDigit_of_mem_toDigits (by decide) (by decide) hmem) (by decide)

theorem eq_of_toList_toString_eq {m n : Nat} (h : (toString m).toList = (toString n).toList) :
    m = n := by
  rw [toList_toString, toList_toString] at h
  have hread := congrArg (Nat.ofDigitChars 10 · 0) h
  simpa using hread

theorem RequestKind.eq_of_name_eq {a b : RequestKind} (h : a.name = b.name) : a = b := by
  cases a <;> cases b <;> first | rfl | exact absurd h (by decide)

/-- Two texts that each end in front of their first separator are the same. -/
theorem append_cons_inj_of_not_mem {c : Char} {xs ys us vs : List Char} (hx : c ∉ xs) (hy : c ∉ ys)
    (h : xs ++ c :: us = ys ++ c :: vs) : xs = ys ∧ us = vs := by
  induction xs generalizing ys with
  | nil =>
    cases ys with
    | nil => exact ⟨rfl, (List.cons.inj h).2⟩
    | cons y ys => exact absurd (List.cons.inj h).1 (List.ne_of_not_mem_cons hy)
  | cons x xs ih =>
    cases ys with
    | nil => exact absurd (List.cons.inj h).1.symm (List.ne_of_not_mem_cons hx)
    | cons y ys =>
      obtain ⟨rfl, hrest⟩ := List.cons.inj h
      obtain ⟨rfl, hend⟩ :=
        ih (List.not_mem_of_not_mem_cons hx) (List.not_mem_of_not_mem_cons hy) hrest
      exact ⟨rfl, hend⟩

/-- The line of a request tells its number, its kind and its source. -/
theorem Request.eq_of_print_eq {a b : Request} (h : a.print = b.print) : a = b := by
  obtain ⟨m, kind, source⟩ := a
  obtain ⟨n, kind', source'⟩ := b
  have hchars := congrArg String.toList h
  simp only [Request.print, String.toList_append, List.append_assoc] at hchars
  have hnumber := List.append_cancel_left hchars
  have hcomma : ",\"kind\":".toList = ',' :: "\"kind\":".toList := by decide
  rw [hcomma, List.cons_append, List.cons_append] at hnumber
  obtain ⟨hdigits, hkind⟩ := append_cons_inj_of_not_mem
    (comma_not_mem_toString m) (comma_not_mem_toString n) hnumber
  obtain rfl := eq_of_toList_toString_eq hdigits
  obtain ⟨hname, hsource⟩ := Json.printString_append_inj (List.append_cancel_left hkind)
  obtain rfl := RequestKind.eq_of_name_eq hname
  obtain ⟨rfl, -⟩ := Json.printString_append_inj (List.append_cancel_left hsource)
  rfl

theorem Response.eq_unreadable {line : String} {error : NodeError}
    (h : Response.ofLine line = .error error) : ∃ reason, error = .unreadable reason := by
  unfold Response.ofLine at h
  rcases hread : Json.read Response.recordType.read line with failure | response
  · rw [hread] at h
    exact ⟨_, (Except.error.inj h).symm⟩
  · rw [hread] at h
    cases h

end SfcWeave
