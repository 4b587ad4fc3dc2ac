import Mathlib.Data.List.Forall2

/-!
# Results that may be errors

When a composed computation succeeds, and when it fails, without and with a state.
-/

namespace Except

variable {ε α β : Type _} {x : Except ε α}

theorem map_eq_ok_iff {f : α → β} {b : β} : x.map f = .ok b ↔ ∃ a, x = .ok a ∧ f a = b := by
  cases x with
  | error e => simp [Except.map]
  | ok a => simp [Except.map]

theorem map_eq_error_iff {f : α → β} {e : ε} : x.map f = .error e ↔ x = .error e := by
  cases x <;> simp [Except.map]

/-- A computation goes on with a result that is there. -/
theorem ok_bind (a : α) (f : α → Except ε β) : (.ok a : Except ε α) >>= f = f a := rfl

theorem bind_eq_ok_iff {f : α → Except ε β} {b : β} :
    x >>= f = .ok b ↔ ∃ a, x = .ok a ∧ f a = .ok b := by
  cases x with
  | error e => simp [bind, Except.bind]
  | ok a => simp [bind, Except.bind]

/-- The error of a computation that fails. -/
def error? : Except ε α → Option ε
  | .error e => some e
  | .ok _ => none

theorem error?_eq_some_iff {e : ε} : x.error? = some e ↔ x = .error e := by
  cases x <;> simp [error?]

theorem error?_map (f : α → β) : (x.map f).error? = x.error? := by
  cases x <;> rfl

theorem mem_toOption_iff {x : Except ε α} {a : α} : a ∈ x.toOption ↔ x = .ok a := by
  cases x <;> simp [Except.toOption, eq_comm]

theorem bind_eq_error_iff {f : α → Except ε β} {e : ε} :
    x >>= f = .error e ↔ x = .error e ∨ ∃ a, x = .ok a ∧ f a = .error e := by
  cases x with
  | error cause => simp [bind, Except.bind]
  | ok a => simp [bind, Except.bind]

variable {f : α → Except ε β} {items : List α} {results : List β}

/-- All items are dealt with exactly if each of them is. -/
theorem mapM_eq_ok_iff :
    items.mapM f = .ok results ↔ List.Forall₂ (fun a b => f a = .ok b) items results := by
  induction items generalizing results with
  | nil => simp [pure, Except.pure, eq_comm]
  | cons a items ih =>
    rw [List.mapM_cons, bind_eq_ok_iff, List.forall₂_cons_left_iff]
    simp only [bind_eq_ok_iff, ih, pure, Except.pure, Except.ok.injEq]
    constructor
    · rintro ⟨b, hb, rest, hrest, rfl⟩
      exact ⟨b, rest, hb, hrest, rfl⟩
    · rintro ⟨b, rest, hb, hrest, rfl⟩
      exact ⟨b, hb, rest, hrest, rfl⟩

/-- The error is that of the first item that cannot be dealt with. -/
theorem mapM_eq_error_iff {e : ε} :
    items.mapM f = .error e ↔ ∃ done a rest, items = done ++ a :: rest ∧
      (∀ other ∈ done, ∃ b, f other = .ok b) ∧ f a = .error e := by
  induction items with
  | nil => simp [pure, Except.pure]
  | cons a items ih =>
    rw [List.mapM_cons, bind_eq_error_iff]
    constructor
    · rintro (herror | ⟨b, hb, herror⟩)
      · exact ⟨[], a, items, rfl, by simp, herror⟩
      · rcases bind_eq_error_iff.mp herror with herror | ⟨_, _, herror⟩
        · obtain ⟨done, stop, rest, rfl, hdone, hstop⟩ := ih.mp herror
          exact ⟨a :: done, stop, rest, rfl, List.forall_mem_cons.mpr ⟨⟨b, hb⟩, hdone⟩, hstop⟩
        · cases herror
    · rintro ⟨done, stop, rest, hitems, hdone, hstop⟩
      cases done with
      | nil =>
        obtain ⟨rfl, -⟩ := List.cons.inj hitems
        exact .inl hstop
      | cons b done =>
        obtain ⟨rfl, rfl⟩ := List.cons.inj hitems
        obtain ⟨⟨result, hresult⟩, hrest⟩ := List.forall_mem_cons.mp hdone
        have herror := ih.mpr ⟨done, stop, rest, rfl, hrest, hstop⟩
        exact .inr ⟨result, hresult, bind_eq_error_iff.mpr (.inl herror)⟩

end Except

namespace ExceptT

variable {ε τ α β : Type}

theorem run_run_bind (x : ExceptT ε (StateM τ) α) (f : α → ExceptT ε (StateM τ) β) (state : τ) :
    (x >>= f).run.run state =
      match x.run.run state with
      | (.ok a, next) => (f a).run.run next
      | (.error error, next) => (.error error, next) := by
  unfold ExceptT.run StateT.run
  simp only [bind, ExceptT.bind, ExceptT.mk, StateT.bind]
  rcases x state with ⟨result, next⟩
  cases result <;> rfl

end ExceptT
