import SfcWeave.Files.Discovery
import SfcWeave.Proofs.Files.Tree

/-!
# What is discovered

The files that are found are in the order of their components, no two of them have the same ones
(`pairwise_of_discover`), and each ends in a name (`exists_fileName_of_discover`). They need not be
different files of the tree: a path with `..` in it may be another spelling.
-/

namespace SfcWeave

/-! ### The order of paths -/

namespace Component

variable {a b c : Component}

theorem le_total (a b : Component) : a.le b ∨ b.le a := by
  cases a <;> cases b <;> simp [le, rank, String.le_total]

theorem le_trans (hab : a.le b) (hbc : b.le c) : a.le c := by
  cases a <;> cases b <;> cases c <;> simp_all [le, rank]
  exact String.le_trans hab hbc

theorem le_antisymm (hab : a.le b) (hba : b.le a) : a = b := by
  cases a <;> cases b <;> simp_all [le, rank]
  exact String.le_antisymm hab hba

end Component

namespace Path

theorem leComponents_total (as bs : List Component) :
    leComponents as bs ∨ leComponents bs as := by
  induction as generalizing bs with
  | nil => exact .inl rfl
  | cons a as ih =>
    cases bs with
    | nil => exact .inr rfl
    | cons b bs =>
      by_cases h : a = b
      · simpa [leComponents, h] using ih bs
      · simpa [leComponents, h, Ne.symm h] using Component.le_total a b

theorem leComponents_antisymm {as bs : List Component} (hab : leComponents as bs)
    (hba : leComponents bs as) : as = bs := by
  induction as generalizing bs with
  | nil =>
    cases bs with
    | nil => rfl
    | cons b bs => cases hba
  | cons a as ih =>
    cases bs with
    | nil => cases hab
    | cons b bs =>
      by_cases h : a = b
      · subst h
        rw [ih (by simpa [leComponents] using hab) (by simpa [leComponents] using hba)]
      · rw [leComponents, if_neg h] at hab
        rw [leComponents, if_neg (Ne.symm h)] at hba
        exact absurd (Component.le_antisymm hab hba) h

theorem leComponents_trans {as bs cs : List Component} (hab : leComponents as bs)
    (hbc : leComponents bs cs) : leComponents as cs := by
  induction as generalizing bs cs with
  | nil => rfl
  | cons a as ih =>
    cases bs with
    | nil => cases hab
    | cons b bs =>
      cases cs with
      | nil => cases hbc
      | cons c cs =>
        rw [leComponents] at hab hbc ⊢
        -- the first difference is the nearer one of the two
        by_cases h : a = b
        · subst h
          by_cases h : a = c
          · simp only [if_pos h] at hbc ⊢
            exact ih (by simpa using hab) hbc
          · rwa [if_neg h] at hbc ⊢
        · rw [if_neg h] at hab
          by_cases hbc' : b = c
          · subst hbc'
            rwa [if_neg h]
          · rw [if_neg hbc'] at hbc
            rw [if_neg]
            · exact Component.le_trans hab hbc
            · rintro rfl
              exact h (Component.le_antisymm hab hbc)

end Path

/-! ### Repetitions -/

variable {tree : FileTree} {workspace root path : Path} {ignored : String → Bool}
  {roots files paths : List Path}

theorem dropRepeated_sublist (paths : List Path) : (dropRepeated paths).Sublist paths := by
  fun_induction dropRepeated paths with
  | case1 => exact .refl _
  | case2 => exact .refl _
  | case3 a b paths hsame ih => exact ih.trans (.cons_cons _ (.cons _ (.refl _)))
  | case4 a b paths hsame ih => exact .cons_cons _ ih

theorem mem_of_mem_dropRepeated (h : path ∈ dropRepeated paths) : path ∈ paths :=
  (dropRepeated_sublist paths).subset h

/-- What is dropped has the components of something that stays. -/
theorem exists_mem_dropRepeated (paths : List Path) :
    ∀ path ∈ paths, ∃ other ∈ dropRepeated paths, other.components = path.components := by
  fun_induction dropRepeated paths with
  | case1 => exact fun path h => ⟨path, h, rfl⟩
  | case2 => exact fun path h => ⟨path, h, rfl⟩
  | case3 a b paths hsame ih =>
    have hsame : a.components = b.components := of_decide_eq_true hsame
    intro path h
    rcases List.mem_cons.mp h with heq | h
    · exact ih path (heq ▸ List.mem_cons_self)
    · rcases List.mem_cons.mp h with rfl | h
      · rw [← hsame]
        exact ih a List.mem_cons_self
      · exact ih path (List.mem_cons_of_mem _ h)
  | case4 a b paths hsame ih =>
    intro path h
    rcases List.mem_cons.mp h with rfl | h
    · exact ⟨path, List.mem_cons_self, rfl⟩
    · obtain ⟨other, hother, heq⟩ := ih path h
      exact ⟨other, List.mem_cons_of_mem _ hother, heq⟩

/-- Without neighbours that are the same path, paths in order are all different. -/
theorem pairwise_dropRepeated (h : paths.Pairwise fun a b => a.le b) :
    (dropRepeated paths).Pairwise fun a b => a.components ≠ b.components := by
  fun_induction dropRepeated paths with
  | case1 => exact .nil
  | case2 => exact List.pairwise_singleton _ _
  | case3 a b paths hsame ih =>
    apply ih
    exact h.sublist (.cons_cons _ (.cons _ (List.Sublist.refl _)))
  | case4 a b paths hsame ih =>
    obtain ⟨hfirst, hrest⟩ := List.pairwise_cons.mp h
    refine List.pairwise_cons.mpr ⟨?_, ih hrest⟩
    intro other hother heq
    -- a later path that is the same as `a` makes its neighbour the same
    have hback : b.le a := by
      rcases List.mem_cons.mp (mem_of_mem_dropRepeated hother) with rfl | hmem
      · rw [Path.le, heq]
        exact (Path.leComponents_total _ _).elim id id
      · have hle := (List.pairwise_cons.mp hrest).1 other hmem
        rwa [Path.le, ← heq] at hle
    apply hsame
    simp only [Path.same, decide_eq_true_eq]
    exact Path.leComponents_antisymm (hfirst b List.mem_cons_self) hback

/-! ### What is found -/

theorem exists_of_mem_mapM {α β ε : Type} {f : α → Except ε β} {items : List α}
    {results : List β} (h : items.mapM f = .ok results) {result : β} (hmem : result ∈ results) :
    ∃ item ∈ items, f item = .ok result := by
  induction items generalizing results with
  | nil =>
    cases h
    cases hmem
  | cons item items ih =>
    rw [List.mapM_cons] at h
    obtain ⟨first, hfirst, h⟩ := Except.bind_eq_ok_iff.mp h
    obtain ⟨rest, hrest, h⟩ := Except.bind_eq_ok_iff.mp h
    cases h
    rcases List.mem_cons.mp hmem with rfl | hmem
    · exact ⟨item, List.mem_cons_self, hfirst⟩
    · obtain ⟨other, hother, hresult⟩ := ih hrest hmem
      exact ⟨other, List.mem_cons_of_mem _ hother, hresult⟩

theorem exists_mem_of_mapM {α β ε : Type} {f : α → Except ε β} {items : List α}
    {results : List β} (h : items.mapM f = .ok results) {item : α} (hmem : item ∈ items) :
    ∃ result ∈ results, f item = .ok result := by
  induction Except.mapM_eq_ok_iff.mp h with
  | nil => cases hmem
  | @cons first result items results hfirst hrest ih =>
    rcases List.mem_cons.mp hmem with rfl | hmem
    · exact ⟨result, List.mem_cons_self, hfirst⟩
    · obtain ⟨other, hother, hresult⟩ := ih (Except.mapM_eq_ok_iff.mpr hrest) hmem
      exact ⟨other, List.mem_cons_of_mem _ hother, hresult⟩

/-- A file stands under a root: it is the root, or has been found below it. -/
theorem mem_filesOfRoot (hfiles : filesOfRoot tree workspace ignored root = .ok files)
    (hmem : path ∈ files) :
    (path = root ∧ ∃ location content, tree.locate root = .ok (location, .file content)) ∨
    (isCandidate workspace ignored path ∧ ∃ names : List String,
      path = names.foldl Path.joinText root) := by
  unfold filesOfRoot at hfiles
  split at hfiles
  · next location content hlocate =>
    cases hfiles
    exact .inl ⟨List.mem_singleton.mp hmem, location, content, hlocate⟩
  · cases hfiles
    obtain ⟨hpath, hcandidate⟩ := List.mem_filter.mp hmem
    obtain ⟨names, -, rfl⟩ := List.mem_map.mp hpath
    exact .inr ⟨hcandidate, names, rfl⟩
  · cases hfiles

theorem pairwise_mergeSort_le (paths : List Path) :
    (paths.mergeSort Path.le).Pairwise fun a b => a.le b := by
  apply List.pairwise_mergeSort
  · intro a b c hab hbc
    exact Path.leComponents_trans hab hbc
  · intro a b
    simpa [Path.le] using Path.leComponents_total a.components b.components

theorem pairwise_of_discover (h : discover tree workspace ignored roots = .ok files) :
    files.Pairwise fun a b => a.components ≠ b.components := by
  obtain ⟨lists, -, h⟩ := Except.bind_eq_ok_iff.mp h
  cases h
  exact pairwise_dropRepeated (pairwise_mergeSort_le _)

theorem pairwise_le_of_discover (h : discover tree workspace ignored roots = .ok files) :
    files.Pairwise fun a b => a.le b := by
  obtain ⟨lists, -, h⟩ := Except.bind_eq_ok_iff.mp h
  cases h
  exact (pairwise_mergeSort_le _).sublist (dropRepeated_sublist _)

theorem dropRepeated_eq_self (h : paths.Pairwise fun a b => a.components ≠ b.components) :
    dropRepeated paths = paths := by
  fun_induction dropRepeated paths with
  | case1 => rfl
  | case2 => rfl
  | case3 a b paths hsame ih =>
    exact absurd (of_decide_eq_true hsame) ((List.pairwise_cons.mp h).1 b List.mem_cons_self)
  | case4 a b paths hsame ih => rw [ih (List.pairwise_cons.mp h).2]

/-- What the roots stand for is what is discovered, if it is in order. -/
theorem discover_of_pairwise {lists : List (List Path)}
    (h : roots.mapM (filesOfRoot tree workspace ignored) = .ok lists)
    (horder : lists.flatten.Pairwise fun a b => a.le b)
    (hapart : lists.flatten.Pairwise fun a b => a.components ≠ b.components) :
    discover tree workspace ignored roots = .ok lists.flatten := by
  rw [discover, h, Except.ok_bind, List.mergeSort_of_pairwise horder, dropRepeated_eq_self hapart]
  rfl

theorem discover_singleton (h : filesOfRoot tree workspace ignored root = .ok files)
    (horder : files.Pairwise fun a b => a.le b)
    (hapart : files.Pairwise fun a b => a.components ≠ b.components) :
    discover tree workspace ignored [root] = .ok files := by
  have hlists : [root].mapM (filesOfRoot tree workspace ignored) = .ok [files] := by
    rw [List.mapM_cons, h]
    rfl
  have hflatten : [files].flatten = files := List.flatten_singleton
  rw [← hflatten] at horder hapart ⊢
  exact discover_of_pairwise hlists horder hapart

theorem exists_root_of_discover (h : discover tree workspace ignored roots = .ok files)
    (hmem : path ∈ files) : ∃ root ∈ roots, ∃ found,
      filesOfRoot tree workspace ignored root = .ok found ∧ path ∈ found := by
  obtain ⟨lists, hlists, h⟩ := Except.bind_eq_ok_iff.mp h
  cases h
  have hsorted := List.mem_mergeSort.mp (mem_of_mem_dropRepeated hmem)
  obtain ⟨found, hfound, hpath⟩ := List.mem_flatten.mp hsorted
  obtain ⟨root, hroot, hfiles⟩ := exists_of_mem_mapM hlists hfound
  exact ⟨root, hroot, found, hfiles, hpath⟩

/-- What joining keeps, and what roots have, is had by the files that are discovered. -/
theorem of_discover (Holds : Path → Prop)
    (hjoin : ∀ path name, Holds path → Holds (path.joinText name))
    (hroots : ∀ root ∈ roots, Holds root)
    (h : discover tree workspace ignored roots = .ok files) (hmem : path ∈ files) :
    Holds path := by
  obtain ⟨root, hroot, found, hfiles, hpath⟩ := exists_root_of_discover h hmem
  rcases mem_filesOfRoot hfiles hpath with ⟨rfl, -⟩ | ⟨-, names, rfl⟩
  · exact hroots _ hroot
  · have hholds := hroots root hroot
    clear hfiles hpath hmem hroot
    induction names generalizing root with
    | nil => exact hholds
    | cons name names ih => exact ih _ (hjoin root name hholds)

/-- The files of a command are absolute: its roots are made so. -/
theorem isAbsolute_of_discover {directory : Path} (hdirectory : directory.isAbsolute)
    (h : discover tree workspace ignored (roots.map (·.absoluteIn directory)) = .ok files)
    (hmem : path ∈ files) : path.isAbsolute := by
  have hroots : ∀ root ∈ roots.map (·.absoluteIn directory), root.isAbsolute := by
    intro root hroot
    obtain ⟨given, -, rfl⟩ := List.mem_map.mp hroot
    exact Path.isAbsolute_absoluteIn hdirectory given
  exact of_discover (·.isAbsolute)
    (fun path name hpath => Path.isAbsolute_join hpath (.ofText name)) hroots h hmem

/-- A file that is discovered has a name. -/
theorem exists_fileName_of_discover (h : discover tree workspace ignored roots = .ok files)
    (hmem : path ∈ files) : ∃ name, path.fileName? = some name := by
  obtain ⟨root, -, found, hfiles, hpath⟩ := exists_root_of_discover h hmem
  rcases mem_filesOfRoot hfiles hpath with ⟨rfl, location, content, hlocate⟩ | ⟨hcandidate, -⟩
  · exact FileTree.exists_fileName_of_locate hlocate
  · have hname := (Bool.and_eq_true_iff.mp hcandidate).1
    cases hfile : path.fileName? with
    | some name => exact ⟨name, rfl⟩
    | none =>
      rw [hfile] at hname
      exact absurd hname (by decide)

/-! ### Stems -/

namespace Path

theorem stem_isPrefix (name : String) : (stem name).toList <+: name.toList := by
  unfold stem
  split
  · exact List.prefix_rfl
  · rw [String.toList_ofList, ← List.reverse_suffix, List.reverse_reverse]
    exact (List.drop_suffix _ _).trans (List.dropWhile_suffix _)

/-- The stem of the name of a component, which is all of it when nothing stands before the dot. -/
theorem stem_append_componentSuffix (front : String) :
    stem (front ++ componentSuffix) = if front = "" then componentSuffix else front := by
  have hsuffix : componentSuffix.toList.reverse = ['e', 'u', 'v', '.'] := by decide
  have hbefore : ((front ++ componentSuffix).toList.reverse.dropWhile (· ≠ '.')).drop 1 =
      front.toList.reverse := by
    rw [String.toList_append, List.reverse_append, hsuffix]
    simp
  unfold stem
  rw [hbefore]
  by_cases hempty : front = ""
  · subst hempty
    rfl
  · rw [if_neg hempty]
    have hne : front.toList.reverse ≠ [] := by simpa using hempty
    split
    · contradiction
    · rw [List.reverse_reverse, String.ofList_toList]

theorem exists_of_isComponentName {name : String} (h : isComponentName name) :
    ∃ front, name = front ++ componentSuffix := by
  obtain ⟨front, hfront⟩ := List.isSuffixOf_iff_suffix.mp (Bool.and_eq_true_iff.mp h).1
  refine ⟨String.ofList front, String.toList_inj.mp ?_⟩
  rw [String.toList_append, String.toList_ofList, hfront]

/-- Two components have different stems, unless one is named by the ending alone: its stem is the
whole name, and another component can have that stem, too. -/
theorem stem_eq_stem_iff {name other : String} (hname : isComponentName name)
    (hother : isComponentName other) :
    stem name = stem other ↔ name = other ∨
      (name = ".vue" ∧ other = ".vue.vue") ∨ (name = ".vue.vue" ∧ other = ".vue") := by
  constructor
  · obtain ⟨front, rfl⟩ := exists_of_isComponentName hname
    obtain ⟨start, rfl⟩ := exists_of_isComponentName hother
    rw [stem_append_componentSuffix, stem_append_componentSuffix]
    intro h
    by_cases hfront : front = "" <;> by_cases hstart : start = ""
    · exact .inl (by rw [hfront, hstart])
    · rw [if_pos hfront, if_neg hstart] at h
      exact .inr (.inl ⟨by rw [hfront]; rfl, by rw [← h]; rfl⟩)
    · rw [if_neg hfront, if_pos hstart] at h
      exact .inr (.inr ⟨by rw [h]; rfl, by rw [hstart]; rfl⟩)
    · rw [if_neg hfront, if_neg hstart] at h
      exact .inl (by rw [h])
  · rintro (rfl | ⟨rfl, rfl⟩ | ⟨rfl, rfl⟩)
    · rfl
    · decide
    · decide

end Path

end SfcWeave
