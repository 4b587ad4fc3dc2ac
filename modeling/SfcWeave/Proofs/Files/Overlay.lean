import Mathlib.Data.List.Induction
import SfcWeave.Proofs.Files.Writing

/-!
# Texts put over a tree

Putting texts at their places a second time changes nothing, whatever has been there before and
whichever places coincide (`FileTree.putTexts_putTexts`). A tree agrees with what comes about by
putting texts at certain places (`FileTree.Agree`): the same places are directories, and all other
places have the same files.
-/

namespace SfcWeave.FileTree

variable {tree other after : FileTree} {location place folder : Location} {path : Path}
  {name : String} {content : Content} {written : Location → Prop}
  {texts more : List (Location × String)}

/-- The tree with texts put at their places, one after another. -/
def putTexts (tree : FileTree) (texts : List (Location × String)) : FileTree :=
  texts.foldl (fun tree text => tree.put text.1 (.file (.text text.2))) tree

theorem putTexts_cons (text : Location × String) :
    tree.putTexts (text :: texts) = (tree.put text.1 (.file (.text text.2))).putTexts texts := rfl

theorem putTexts_append : tree.putTexts (texts ++ more) = (tree.putTexts texts).putTexts more :=
  List.foldl_append

/-! ### Entries -/

/-- What is put over a tree comes first, and is the same for every tree. -/
theorem entries_putTexts (tree : FileTree) (texts : List (Location × String)) :
    (tree.putTexts texts).entries = (putTexts {} texts).entries ++
      tree.entries.filter fun entry => entry.1 ∉ texts.map Prod.fst := by
  induction texts generalizing tree with
  | nil => exact (List.filter_eq_self.mpr (by simp)).symm
  | cons text texts ih =>
    have hrest : ∀ entries : List (Location × Entry),
        (entries.filter fun other => other.1 ≠ text.1).filter
          (fun entry => entry.1 ∉ texts.map Prod.fst) =
        entries.filter fun entry => entry.1 ∉ (text :: texts).map Prod.fst := by
      intro entries
      rw [List.filter_filter]
      apply List.filter_congr
      intro entry _
      rw [← Bool.decide_and, decide_eq_decide, List.map_cons, List.mem_cons, not_or, and_comm]
    rw [putTexts_cons, putTexts_cons, ih, ih (put {} _ _), List.append_assoc, ← hrest,
      ← List.filter_append]
    rfl

theorem place_mem_of_mem_putTexts {entry : Location × Entry}
    (h : entry ∈ (putTexts {} texts).entries) : entry.1 ∈ texts.map Prod.fst := by
  induction texts using List.reverseRecOn with
  | nil => cases h
  | append_singleton texts text ih =>
    rw [putTexts_append] at h
    rw [List.map_append, List.mem_append]
    rcases List.mem_cons.mp h with rfl | h
    · exact .inr List.mem_cons_self
    · exact .inl (ih (List.mem_filter.mp h).1)

/-- Putting the same texts once more changes nothing. -/
theorem putTexts_putTexts (tree : FileTree) (texts : List (Location × String)) :
    (tree.putTexts texts).putTexts texts = tree.putTexts texts := by
  have hfront : (putTexts {} texts).entries.filter (fun entry => entry.1 ∉ texts.map Prod.fst) =
      [] := by
    rw [List.filter_eq_nil_iff]
    intro entry hentry
    simpa using place_mem_of_mem_putTexts hentry
  have hentries :
      ((tree.putTexts texts).putTexts texts).entries = (tree.putTexts texts).entries := by
    rw [entries_putTexts (tree.putTexts texts), entries_putTexts tree, List.filter_append, hfront,
      List.nil_append, List.filter_filter]
    simp
  exact congrArg FileTree.mk hentries

/-! ### Trees that agree -/

/-- Two trees differ in the files at some places only. -/
structure Agree (written : Location → Prop) (tree other : FileTree) : Prop where
  forth : Keeps written tree other
  back : Keeps written other tree

namespace Agree

theorem refl (written : Location → Prop) (tree : FileTree) : Agree written tree tree :=
  ⟨.refl _ _, .refl _ _⟩

theorem trans (h : Agree written tree other) (hrest : Agree written other after) :
    Agree written tree after :=
  ⟨h.forth.trans hrest.forth, hrest.back.trans h.back⟩

theorem directory_iff (h : Agree written tree other) :
    other.find? location = some .directory ↔ tree.find? location = some .directory :=
  ⟨h.back.directories location, h.forth.directories location⟩

theorem find?_eq (h : Agree written tree other) (hplace : ¬ written location) :
    other.find? location = tree.find? location := by
  rcases hfind : tree.find? location with _ | content | _
  · rcases hother : other.find? location with _ | content | _
    · rfl
    · rw [(h.forth.files location hplace content).mp hother] at hfind
      cases hfind
    · rw [h.directory_iff.mp hother] at hfind
      cases hfind
  · exact (h.forth.files location hplace content).mpr hfind
  · exact h.directory_iff.mpr hfind

/-- A path into a directory leads to the same entry. -/
theorem locate_eq (h : Agree written tree other) (hends : tree.EndsIn path folder name)
    (hplace : ¬ written (folder ++ [name])) : other.locate path = tree.locate path := by
  unfold locate
  rw [hends.walk, (hends.of_keeps h.forth).walk]
  dsimp only
  rw [h.find?_eq hplace]

end Agree

/-- The places of texts are among those that may be written, and are no directories. -/
def Admits (written : Location → Prop) (tree : FileTree) (texts : List (Location × String)) :
    Prop :=
  ∀ text ∈ texts, written text.1 ∧ tree.find? text.1 ≠ some .directory

theorem Admits.append (h : tree.Admits written texts) (hmore : tree.Admits written more) :
    tree.Admits written (texts ++ more) := by
  intro text htext
  rcases List.mem_append.mp htext with htext | htext
  · exact h text htext
  · exact hmore text htext

theorem Admits.of_agree (hagree : Agree written tree other) (h : tree.Admits written texts) :
    other.Admits written texts := fun text htext =>
  ⟨(h text htext).1, fun hdirectory => (h text htext).2 (hagree.directory_iff.mp hdirectory)⟩

theorem agree_put (hplace : written place) (hfree : tree.find? place ≠ some .directory) :
    Agree written tree (tree.put place (.file content)) := by
  have hne : place ≠ [] := by
    rintro rfl
    exact hfree rfl
  refine ⟨keeps_put hne hfree (.inl hplace), ?_, ?_⟩
  · intro location h
    rw [find?_put hne] at h
    split at h
    · cases h
    · exact h
  · intro location hlocation content
    rw [find?_put hne, if_neg]
    rintro rfl
    exact hlocation hplace

/-- A tree agrees with what comes about by putting texts. -/
theorem Admits.agree (h : tree.Admits written texts) :
    Agree written tree (tree.putTexts texts) := by
  induction texts generalizing tree with
  | nil => exact .refl _ _
  | cons text texts ih =>
    obtain ⟨⟨hplace, hfree⟩, hrest⟩ := List.forall_mem_cons.mp h
    have hfirst : Agree written tree (tree.put text.1 (.file (.text text.2))) :=
      agree_put hplace hfree
    exact hfirst.trans (ih (Admits.of_agree hfirst hrest))

end SfcWeave.FileTree
