import Mathlib.Data.List.SplitBy
import SfcWeave.Component.Tag
import SfcWeave.Proofs.Text.Indent
import SfcWeave.Proofs.Text.Lowercase

/-!
# Names in words

The tag of a component is its name in lower case, with a hyphen in front of every word but the
first. `IsHyphenation` says what that means for the hyphens alone: the words make up the name, they
are joined by hyphens, and the places where one begins are exactly those of `StartsWord`. Where a
hyphen has been put no word starts any more, so that a second pass finds nothing to do
(`hyphenatePass_hyphenatePass`), and a tag is its own tag (`hyphenate_stable`).
-/

namespace SfcWeave

open Text (join join_cons_cons lowercase)

variable {previous c d : Char} {cs rest word : List Char} {words : List (List Char)}

/-! ### Places -/

/-- A word starts with `c` when it comes after `previous`. -/
def startsAfter (previous c : Char) : Bool :=
  isCapital c && previous != '-' && !isCapital previous

/-- A word starts at a place inside a text: there stands a capital letter, and in front of it
neither a hyphen nor a capital letter. -/
def StartsWord (cs : List Char) (place : Nat) : Prop :=
  ∃ before previous c after, cs = before ++ previous :: c :: after ∧ place = before.length + 1 ∧
    isCapital c ∧ previous ≠ '-' ∧ isCapital previous = false

/-- No word starts inside a text. -/
def IsHyphenated (cs : List Char) : Prop :=
  cs.IsChain fun previous c => startsAfter previous c = false

/-- The words of a name. -/
def wordsOf (name : List Char) : List (List Char) :=
  name.splitBy fun previous c => !startsAfter previous c

/-- A name with hyphens between its words. -/
structure IsHyphenation (name result : List Char) (words : List (List Char)) : Prop where
  /-- Without the hyphens the words make up the name. -/
  flatten_eq : words.flatten = name
  join_eq : join ['-'] words = result
  nil_notMem : [] ∉ words
  /-- A word that has another one in front of it begins where `StartsWord` says, and nowhere
  else. -/
  startsWord_iff : ∀ place, StartsWord name place ↔
    ∃ front back, words = front ++ back ∧ front ≠ [] ∧ back ≠ [] ∧ front.flatten.length = place

theorem startsAfter_iff : startsAfter previous c ↔
    isCapital c ∧ previous ≠ '-' ∧ isCapital previous = false := by
  simp [startsAfter, and_assoc]

/-! ### One pass -/

theorem hyphenateAfter_cons (previous c : Char) (cs : List Char) :
    hyphenateAfter previous (c :: cs) =
      if startsAfter previous c then '-' :: c :: hyphenateAfter c cs
      else c :: hyphenateAfter c cs := rfl

/-- Where no word starts no hyphen is put in, and the first word after that is set off by one. -/
theorem hyphenateAfter_append (hinner : IsHyphenated (previous :: cs))
    (hbreak : startsAfter ((previous :: cs).getLast (List.cons_ne_nil previous cs)) d) :
    hyphenateAfter previous (cs ++ d :: rest) = cs ++ '-' :: d :: hyphenateAfter d rest := by
  induction cs generalizing previous with
  | nil => exact if_pos hbreak
  | cons c cs ih =>
    obtain ⟨hfirst, hcs⟩ := List.isChain_cons_cons.mp hinner
    rw [List.getLast_cons_cons] at hbreak
    rw [List.cons_append, hyphenateAfter_cons, if_neg (Bool.eq_false_iff.mp hfirst),
      ih hcs hbreak]
    rfl

theorem hyphenateAfter_eq_self (h : IsHyphenated (previous :: cs)) :
    hyphenateAfter previous cs = cs := by
  induction cs generalizing previous with
  | nil => rfl
  | cons c cs ih =>
    obtain ⟨hfirst, hcs⟩ := List.isChain_cons_cons.mp h
    rw [hyphenateAfter_cons, if_neg (Bool.eq_false_iff.mp hfirst), ih hcs]

/-- A text in which no word starts stays as it is. -/
theorem hyphenatePass_eq_self (h : IsHyphenated cs) : hyphenatePass cs = cs := by
  cases cs with
  | nil => rfl
  | cons c cs => rw [hyphenatePass, hyphenateAfter_eq_self h]

/-- A hyphen is put between words. -/
theorem hyphenatePass_flatten (hne : [] ∉ words) (hinner : ∀ word ∈ words, IsHyphenated word)
    (hbreak : words.IsChain fun u v => ∃ hu hv, startsAfter (u.getLast hu) (v.head hv)) :
    hyphenatePass words.flatten = join ['-'] words := by
  induction words with
  | nil => rfl
  | cons word words ih =>
    have hword := hinner word List.mem_cons_self
    cases words with
    | nil => simpa [join] using hyphenatePass_eq_self hword
    | cons next words =>
      obtain ⟨⟨hword_ne, hnext_ne, hstarts⟩, hchain⟩ := List.isChain_cons_cons.mp hbreak
      have hmore := ih (fun h => hne (List.mem_cons_of_mem word h))
        (fun word' h => hinner word' (List.mem_cons_of_mem word h)) hchain
      obtain ⟨c, cs, rfl⟩ := List.exists_cons_of_ne_nil hword_ne
      obtain ⟨d, ds, rfl⟩ := List.exists_cons_of_ne_nil hnext_ne
      rw [List.flatten_cons, List.cons_append, hyphenatePass] at hmore
      have hpass : hyphenateAfter c (cs ++ d :: (ds ++ words.flatten)) =
          cs ++ '-' :: d :: hyphenateAfter d (ds ++ words.flatten) :=
        hyphenateAfter_append hword hstarts
      rw [join_cons_cons, ← hmore, List.flatten_cons, List.flatten_cons, List.cons_append,
        List.cons_append, hyphenatePass, hpass]
      simp

theorem hyphenatePass_eq_join (name : List Char) :
    hyphenatePass name = join ['-'] (wordsOf name) := by
  conv_lhs => rw [← List.flatten_splitBy (fun previous c => !startsAfter previous c) name]
  refine hyphenatePass_flatten (List.nil_notMem_splitBy _ name) ?_ ?_
  · intro word hword
    simpa [IsHyphenated] using List.isChain_of_mem_splitBy hword
  · simpa using List.isChain_getLast_head_splitBy (fun previous c => !startsAfter previous c) name

/-- Words begin where `StartsWord` says. -/
theorem startsWord_iff_wordsOf (name : List Char) (place : Nat) : StartsWord name place ↔
    ∃ front back, wordsOf name = front ++ back ∧ front ≠ [] ∧ back ≠ [] ∧
      front.flatten.length = place := by
  constructor
  · rintro ⟨before, previous, c, after, rfl, rfl, hstarts⟩
    -- the words before the place and those from there on
    refine ⟨wordsOf (before ++ [previous]), wordsOf (c :: after), ?_, by simp [wordsOf],
      by simp [wordsOf], by simp [wordsOf]⟩
    rw [List.append_cons, wordsOf, List.splitBy_append_cons]
    · rfl
    · simpa using startsAfter_iff.mpr hstarts
  · rintro ⟨front, back, hwords, hfront, hback, rfl⟩
    have hname : (front ++ back).flatten = name := hwords ▸ List.flatten_splitBy _ name
    have hchain : (wordsOf name).IsChain _ :=
      List.isChain_getLast_head_splitBy (fun previous c => !startsAfter previous c) name
    rw [hwords] at hchain
    -- the last word before the place and the first one behind it, with the characters that meet
    obtain ⟨front, u, rfl⟩ := List.eq_nil_or_concat' front |>.resolve_left hfront
    obtain ⟨v, back, rfl⟩ := List.exists_cons_of_ne_nil hback
    rw [List.append_assoc, List.singleton_append, List.isChain_append_cons_cons] at hchain
    obtain ⟨-, ⟨hu, hv, hstarts⟩, -⟩ := hchain
    obtain ⟨u, previous, rfl⟩ := List.eq_nil_or_concat' u |>.resolve_left hu
    obtain ⟨c, v, rfl⟩ := List.exists_cons_of_ne_nil hv
    refine ⟨front.flatten ++ u, previous, c, v ++ back.flatten, ?_, ?_, startsAfter_iff.mp ?_⟩
    · simp [← hname]
    · simp [Nat.add_assoc]
    · simpa using hstarts

theorem isHyphenation_wordsOf (name : List Char) :
    IsHyphenation name (hyphenatePass name) (wordsOf name) where
  flatten_eq := List.flatten_splitBy _ name
  join_eq := (hyphenatePass_eq_join name).symm
  nil_notMem := List.nil_notMem_splitBy _ name
  startsWord_iff := startsWord_iff_wordsOf name

/-- Only capital letters of ASCII start words, and in a run of them only the first. -/
example : wordsOf "aBCd-Ef1GÉh".toList = ["a".toList, "BCd-Ef1".toList, "GÉh".toList] := by decide

/-! ### More passes -/

/-- What a pass returns is hyphenated, whatever stands in front of it. -/
theorem isHyphenated_hyphenateAfter (previous : Char) (cs : List Char) :
    IsHyphenated (previous :: hyphenateAfter previous cs) := by
  induction cs generalizing previous with
  | nil => exact List.isChain_singleton previous
  | cons c cs ih =>
    rw [hyphenateAfter_cons]
    split
    · -- neither the hyphen nor what it is put before starts a word
      refine List.isChain_cons_cons.mpr ⟨?_, List.isChain_cons_cons.mpr ⟨?_, ih c⟩⟩
      · simp [startsAfter, isCapital]
      · simp [startsAfter]
    · next hc => exact List.isChain_cons_cons.mpr ⟨Bool.eq_false_iff.mpr hc, ih c⟩

theorem isHyphenated_hyphenatePass (name : List Char) : IsHyphenated (hyphenatePass name) := by
  cases name with
  | nil => exact List.isChain_nil
  | cons c cs => exact isHyphenated_hyphenateAfter c cs

theorem hyphenatePass_hyphenatePass (name : List Char) :
    hyphenatePass (hyphenatePass name) = hyphenatePass name :=
  hyphenatePass_eq_self (isHyphenated_hyphenatePass name)

/-! ### Tags -/

theorem not_isCapital_of_isLower (h : Text.IsLower c) : isCapital c = false := by
  rw [Bool.eq_false_iff]
  intro hc
  simp only [isCapital, Bool.and_eq_true, decide_eq_true_eq] at hc
  exact Text.not_isLower_ascii hc.1 hc.2 h

/-- A text without capital letters is hyphenated. -/
theorem isHyphenated_of_not_isCapital (h : ∀ c ∈ cs, isCapital c = false) : IsHyphenated cs := by
  rw [IsHyphenated, List.isChain_iff_forall_rel_of_append_cons_cons]
  rintro previous c before after rfl
  simp [startsAfter, h c (by simp)]

theorem not_isCapital_of_mem_hyphenate {name : String} (h : c ∈ (hyphenate name).toList) :
    isCapital c = false :=
  not_isCapital_of_isLower (Text.isLower_of_mem_lowercase h)

theorem hyphenate_hyphenate (name : String) : hyphenate (hyphenate name) = hyphenate name := by
  have hpass : hyphenatePass (hyphenate name).toList = (hyphenate name).toList :=
    hyphenatePass_eq_self <| isHyphenated_of_not_isCapital fun _ => not_isCapital_of_mem_hyphenate
  rw [hyphenate.eq_1 (hyphenate name), hpass, hpass, String.ofList_toList]
  exact Text.lowercase_lowercase _

/-- A tag is made by one pass. -/
theorem hyphenate_eq_lowercase (name : String) :
    hyphenate name = lowercase (String.ofList (hyphenatePass name.toList)) := by
  rw [hyphenate, hyphenatePass_hyphenatePass]

/-- A pass puts hyphens between the words of a name and nowhere else, a second pass changes nothing,
and a tag is its own tag, in which no capital letter is left. -/
theorem hyphenate_stable (name : String) :
    (∃ words, IsHyphenation name.toList (hyphenatePass name.toList) words) ∧
    hyphenatePass (hyphenatePass name.toList) = hyphenatePass name.toList ∧
    hyphenate name = lowercase (String.ofList (hyphenatePass name.toList)) ∧
    hyphenate (hyphenate name) = hyphenate name ∧
    ∀ c ∈ (hyphenate name).toList, isCapital c = false :=
  ⟨⟨_, isHyphenation_wordsOf name.toList⟩, hyphenatePass_hyphenatePass name.toList,
    hyphenate_eq_lowercase name, hyphenate_hyphenate name,
    fun _ => not_isCapital_of_mem_hyphenate⟩

end SfcWeave
