/-!
# Byte offsets in a text

Positions in a text are UTF-8 byte offsets, while texts are processed as lists of characters. This
module holds the two notions that connect the views: `byteLength`, the size of a list of
characters, and `splitAt?`, which cuts a list of characters after an exact number of bytes.

The main statement is `splitAt?_eq_some_iff`: the cut at `n` succeeds exactly when the text has a
character boundary there, and its two parts put the text together again.
-/

namespace SfcWeave.Text

/-- The number of UTF-8 bytes of a list of characters. -/
def byteLength : List Char → Nat
  | [] => 0
  | c :: cs => c.utf8Size + byteLength cs

@[simp] theorem byteLength_nil : byteLength [] = 0 := rfl

@[simp] theorem byteLength_cons (c : Char) (cs : List Char) :
    byteLength (c :: cs) = c.utf8Size + byteLength cs := rfl

@[simp] theorem byteLength_append (a b : List Char) :
    byteLength (a ++ b) = byteLength a + byteLength b := by
  induction a with
  | nil => simp
  | cons c a ih => simp [ih, Nat.add_assoc]

/-- Every character takes at least one byte. -/
theorem length_le_byteLength (cs : List Char) : cs.length ≤ byteLength cs := by
  induction cs with
  | nil => simp
  | cons c cs ih =>
    have := c.utf8Size_pos
    simp only [List.length_cons, byteLength_cons]
    omega

/-- Cuts a text after exactly `n` bytes; there is no cut inside a character or past the end. -/
def splitAt? : Nat → List Char → Option (List Char × List Char)
  | 0, cs => some ([], cs)
  | _ + 1, [] => none
  | n + 1, c :: cs =>
    if c.utf8Size ≤ n + 1 then
      (splitAt? (n + 1 - c.utf8Size) cs).map fun (before, after) => (c :: before, after)
    else none

@[simp] theorem splitAt?_zero (cs : List Char) : splitAt? 0 cs = some ([], cs) := by
  cases cs <;> rfl

/-- The cut after the first part of a concatenation. -/
theorem splitAt?_append (a b : List Char) : splitAt? (byteLength a) (a ++ b) = some (a, b) := by
  induction a with
  | nil => simp
  | cons c a ih =>
    obtain ⟨k, hk⟩ : ∃ k, c.utf8Size + byteLength a = k + 1 :=
      ⟨c.utf8Size + byteLength a - 1, by have := c.utf8Size_pos; omega⟩
    have hle : c.utf8Size ≤ k + 1 := by omega
    have hsub : k + 1 - c.utf8Size = byteLength a := by omega
    simp [byteLength_cons, hk, splitAt?, hle, hsub, ih]

theorem eq_append_of_splitAt? {n : Nat} {cs a b : List Char} (h : splitAt? n cs = some (a, b)) :
    cs = a ++ b ∧ n = byteLength a := by
  induction cs generalizing n a with
  | nil =>
    cases n with
    | zero =>
      obtain ⟨rfl, rfl⟩ : a = [] ∧ b = [] := by simpa [eq_comm] using h
      simp
    | succ n => simp [splitAt?] at h
  | cons c cs ih =>
    cases n with
    | zero =>
      obtain ⟨rfl, rfl⟩ : a = [] ∧ b = c :: cs := by simpa [eq_comm] using h
      simp
    | succ n =>
      rw [splitAt?] at h
      split at h
      · rename_i hle
        obtain ⟨⟨x, y⟩, hxy, heq⟩ := Option.map_eq_some_iff.1 h
        obtain ⟨rfl, rfl⟩ : c :: x = a ∧ y = b := by simpa using heq
        obtain ⟨rfl, hn⟩ := ih hxy
        exact ⟨rfl, by simp only [byteLength_cons]; omega⟩
      · simp at h

/-- A cut at `n` exists exactly at a character boundary, and loses nothing. -/
theorem splitAt?_eq_some_iff {n : Nat} {cs a b : List Char} :
    splitAt? n cs = some (a, b) ↔ cs = a ++ b ∧ n = byteLength a :=
  ⟨eq_append_of_splitAt?, by rintro ⟨rfl, rfl⟩; exact splitAt?_append a b⟩


end SfcWeave.Text
