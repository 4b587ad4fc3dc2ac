import SfcWeave.Script.Lexeme

/-!
# Names between quotes

A name that is written between double quotes without any escaping is read as a string literal, and
need not come back. `DecodesTo literal value` says what is read, whatever follows the closing quote,
and the names that come back are those without quotes, backslashes and line ends:

    decodesTo_self_iff : DecodesTo name name ↔ IsVerbatim name

For an escape is longer than what it stands for, every other name loses characters.
-/

namespace SfcWeave.Script

open Text (after?)

variable {c quote : Char} {cs left rest : List Char} {units : List Nat} {name : String}

/-- Between double quotes the text is a string literal with this value. -/
def DecodesTo (literal value : String) : Prop :=
  ∃ units, (∀ rest, stringBody? '"' (literal.toList ++ '"' :: rest) = some (units, rest)) ∧
    value = String.ofList (ofCodePoints units)

/-- A character that stands for itself in a string literal. -/
def isVerbatim (c : Char) : Bool := c != '"' && c != '\\' && c != '\n' && c != '\r'

/-- All characters of the text stand for themselves. -/
def IsVerbatim (text : String) : Prop := ∀ c ∈ text.toList, isVerbatim c

instance : DecidablePred IsVerbatim := fun text =>
  decidable_of_iff (text.toList.all isVerbatim) List.all_eq_true

theorem eq_of_decodesTo {literal value other : String} (h : DecodesTo literal value)
    (hother : DecodesTo literal other) : value = other := by
  obtain ⟨units, hbody, rfl⟩ := h
  obtain ⟨units', hbody', rfl⟩ := hother
  have hsame := (hbody []).symm.trans (hbody' [])
  rw [(Prod.mk.inj (Option.some.inj hsame)).1]

/-! ### Texts without escapes -/

theorem stringBody?_append (h : ∀ c ∈ cs, isVerbatim c) (rest : List Char) :
    stringBody? '"' (cs ++ '"' :: rest) = some (cs.map Char.toNat, rest) := by
  induction cs with
  | nil => simp [stringBody?]
  | cons c cs ih =>
    rw [List.forall_mem_cons] at h
    obtain ⟨hc, hcs⟩ := h
    simp only [isVerbatim, Bool.and_eq_true, bne_iff_ne, ne_eq] at hc
    simp [stringBody?, hc, ih hcs]

/-- No character is half of a surrogate pair, so every one is its code point. -/
theorem ofCodePoints_map_toNat (cs : List Char) : ofCodePoints (cs.map Char.toNat) = cs := by
  have hchar : ∀ c : Char, (if c.toNat.isValidChar then Char.ofNat c.toNat else '\ufffd') = c := by
    intro c
    rw [if_pos (show c.toNat.isValidChar from c.valid), Char.ofNat_toNat]
  induction cs with
  | nil => rfl
  | cons c cs ih =>
    cases cs with
    | nil => rw [List.map_cons, List.map_nil, ofCodePoints, hchar]
    | cons d cs =>
      have hpair : ¬ (0xD800 ≤ c.toNat ∧ c.toNat < 0xDC00) := by
        have hvalid : c.toNat.isValidChar := c.valid
        rcases hvalid with h | h
        · omega
        · omega
      rw [List.map_cons, List.map_cons, ofCodePoints, hchar, if_neg, ← List.map_cons, ih]
      simp [hpair]

/-! ### Escapes -/

theorem length_ofCodePoints_le (units : List Nat) : (ofCodePoints units).length ≤ units.length := by
  fun_induction ofCodePoints units with
  | case1 => simp
  | case2 => simp
  | case3 high low rest hpair ih => simp only [List.length_cons]; omega
  | case4 high low rest hpair ih => simp only [List.length_cons] at *; omega

/-- An escape stands for at most one code unit, and takes a character for it. -/
theorem length_of_stringEscape?_cons (h : stringEscape? (c :: cs) = some (units, rest)) :
    units.length ≤ 1 ∧ rest.length ≤ cs.length := by
  unfold stringEscape? at h
  dsimp only at h
  split at h
  case h_7 =>
    obtain ⟨⟨n, after⟩, hdigits, heq⟩ := Option.map_eq_some_iff.mp h
    obtain ⟨rfl, rfl⟩ := Prod.mk.inj heq
    exact ⟨by simp, length_of_hexDigits? hdigits⟩
  case h_8 =>
    obtain ⟨⟨n, after⟩, hpoint, heq⟩ := Option.map_eq_some_iff.mp h
    obtain ⟨rfl, rfl⟩ := Prod.mk.inj heq
    exact ⟨by simp, length_of_codePoint? hpoint⟩
  case h_9 =>
    obtain ⟨rfl, rfl⟩ := Prod.mk.inj (Option.some.inj h)
    cases hfeed : after? ['\n'] cs with
    | none => simp
    | some after =>
      have hlength := Text.length_of_after? hfeed
      simp at hlength ⊢
      omega
  case h_13 =>
    split at h
    · obtain ⟨rfl, rfl⟩ := Prod.mk.inj (Option.some.inj h)
      simp
    · obtain ⟨rfl, rfl⟩ := Prod.mk.inj (Option.some.inj h)
      simp
  all_goals
    obtain ⟨rfl, rfl⟩ := Prod.mk.inj (Option.some.inj h)
    simp

/-- A literal that ends at a quote is as long as its value if it holds no escape, and longer
otherwise. -/
theorem length_of_stringBody? (h : stringBody? '"' cs = some (units, '"' :: left)) :
    units.length + left.length + 2 ≤ cs.length ∧
      (units.length + left.length + 2 = cs.length → ∀ c ∈ cs.take units.length, isVerbatim c) := by
  fun_induction stringBody? '"' cs generalizing units with
  | case1 => cases h
  | case2 c rest hquote =>
    obtain ⟨rfl, rfl⟩ := Prod.mk.inj (Option.some.inj h)
    simp
  | case3 c rest hquote hbreak =>
    obtain ⟨rfl, hleft⟩ := Prod.mk.inj (Option.some.inj h)
    simp_all
  | case4 c rest hquote hbreak hslash escaped after hescape ih =>
    obtain ⟨⟨value, left'⟩, hbody, heq⟩ := Option.map_eq_some_iff.mp h
    obtain ⟨rfl, rfl⟩ := Prod.mk.inj heq
    have hmore := (ih hbody).1
    cases rest with
    | nil =>
      -- a backslash at the very end leaves no quote
      obtain ⟨rfl, rfl⟩ := Prod.mk.inj (Option.some.inj hescape)
      simp [stringBody?] at hbody
    | cons d rest =>
      obtain ⟨hunits, hafter⟩ := length_of_stringEscape?_cons hescape
      simp only [List.length_append, List.length_cons]
      omega
  | case5 c rest hquote hbreak hslash hescape => cases h
  | case6 c rest hquote hbreak hslash ih =>
    obtain ⟨⟨value, left'⟩, hbody, heq⟩ := Option.map_eq_some_iff.mp h
    obtain ⟨rfl, rfl⟩ := Prod.mk.inj heq
    obtain ⟨hle, hverbatim⟩ := ih hbody
    simp only [List.length_cons]
    refine ⟨by omega, ?_⟩
    intro heq
    rw [List.take_succ_cons, List.forall_mem_cons]
    refine ⟨?_, hverbatim (by omega)⟩
    simp_all [isVerbatim]

/-- A name comes back from between quotes exactly if each of its characters stands for itself. -/
theorem decodesTo_self_iff : DecodesTo name name ↔ IsVerbatim name := by
  constructor
  · rintro ⟨units, hbody, hvalue⟩
    obtain ⟨hle, hverbatim⟩ := length_of_stringBody? (hbody ['"'])
    have hlength : name.toList.length ≤ units.length := by
      rw [hvalue, String.toList_ofList]
      exact length_ofCodePoints_le units
    rw [List.length_append] at hle hverbatim
    simp only [List.length_cons, List.length_nil] at hle hverbatim
    have hsame : units.length = name.toList.length := by omega
    have htake := hverbatim (by omega)
    rwa [hsame, List.take_left] at htake
  · intro h
    refine ⟨name.toList.map Char.toNat, stringBody?_append h, ?_⟩
    rw [ofCodePoints_map_toNat, String.ofList_toList]

end SfcWeave.Script
