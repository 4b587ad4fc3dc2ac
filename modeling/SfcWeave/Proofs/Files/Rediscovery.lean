import Mathlib.Data.List.Basic
import SfcWeave.Proofs.Files.Discovery
import SfcWeave.Proofs.Files.Overlay

/-!
# Discovery does not see results

The name of a result ends in `.typed.vue`, and a file with such a name is never discovered below a
directory. So a tree in which results have been written gives the same files as before

    discover_putTexts : discover (tree.putTexts texts) workspace ignored roots =
      discover tree workspace ignored roots

and none of these files is at the place of a result.
-/

namespace SfcWeave

open FileTree

variable {tree : FileTree} {workspace root path : Path} {ignored : String → Bool}
  {roots files : List Path} {location place folder : Location} {names : List String}
  {name : String} {texts : List (Location × String)}

/-- A place where a result may be written: the name there has the ending of results. -/
def IsWovenPlace (location : Location) : Prop :=
  ∃ folder name, location = folder ++ [name] ∧ Path.IsName name ∧ endsWith name wovenSuffix

theorem not_isWovenPlace (h : isComponentName name) : ¬ IsWovenPlace (folder ++ [name]) := by
  rintro ⟨other, last, hplace, -, hwoven⟩
  obtain rfl : name = last := by simpa using (List.append_inj' hplace rfl).2
  simp [isComponentName, hwoven] at h

/-! ### Names below a directory -/

theorem namesBelow?_eq_some_iff :
    namesBelow? location place = some names ↔ names ≠ [] ∧ place = location ++ names := by
  fun_induction namesBelow? location place with
  | case1 => simp_all
  | case2 name rest => simp; grind
  | case3 => simp
  | case4 directory name rest ih => simp [ih]
  | case5 first directory name rest hne => simp; grind

theorem exists_locate_of_isDirectory (h : tree.isDirectory root) :
    ∃ location, tree.locate root = .ok (location, .directory) := by
  unfold isDirectory at h
  split at h
  · next location hlocate => exact ⟨location, hlocate⟩
  · cases h

/-- The path that is found for an entry, if the entry is a candidate below the root. -/
def pathFound? (workspace : Path) (ignored : String → Bool) (root : Path) (location : Location)
    (entry : Location × Entry) : Option Path :=
  match entry.2 with
  | .file _ =>
    ((namesBelow? location entry.1).map fun names => names.foldl Path.joinText root).filter
      (isCandidate workspace ignored)
  | .directory => none

theorem pathFound?_eq_some_iff {entry : Location × Entry} :
    pathFound? workspace ignored root location entry = some path ↔
      ∃ content names, entry = (location ++ names, .file content) ∧ names ≠ [] ∧
        path = names.foldl Path.joinText root ∧ isCandidate workspace ignored path := by
  obtain ⟨place, entry⟩ := entry
  cases entry with
  | directory => simp [pathFound?]
  | file content =>
    simp only [pathFound?, Option.filter_eq_some_iff, Option.map_eq_some_iff,
      namesBelow?_eq_some_iff, Prod.mk.injEq, Entry.file.injEq]
    constructor
    · rintro ⟨⟨names, ⟨hne, rfl⟩, rfl⟩, hcandidate⟩
      exact ⟨content, names, ⟨rfl, rfl⟩, hne, rfl, hcandidate⟩
    · rintro ⟨_, names, ⟨rfl, -⟩, hne, rfl, hcandidate⟩
      exact ⟨⟨names, ⟨hne, rfl⟩, rfl⟩, hcandidate⟩

theorem filesOfRoot_of_directory (h : tree.locate root = .ok (location, .directory)) :
    filesOfRoot tree workspace ignored root =
      .ok (tree.entries.filterMap (pathFound? workspace ignored root location)) := by
  have hfound : ((tree.filesBelow location).map fun names => names.foldl Path.joinText root).filter
      (isCandidate workspace ignored) =
      tree.entries.filterMap (pathFound? workspace ignored root location) := by
    rw [filesBelow, List.map_filterMap, List.filter_filterMap]
    apply List.filterMap_congr
    rintro ⟨other, entry⟩ -
    cases entry <;> rfl
  rw [filesOfRoot, h]
  exact congrArg Except.ok hfound

/-- No path is found for an entry that is at the place of a result. -/
theorem pathFound?_of_isWovenPlace {entry : Location × Entry} (h : IsWovenPlace entry.1) :
    pathFound? workspace ignored root location entry = none := by
  obtain ⟨folder, name, hplace, hname, hwoven⟩ := h
  rw [Option.eq_none_iff_forall_ne_some]
  intro path hpath
  obtain ⟨content, names, rfl, hne, rfl, hcandidate⟩ := pathFound?_eq_some_iff.mp hpath
  obtain ⟨front, last, rfl⟩ := (List.eq_nil_or_concat' names).resolve_left hne
  obtain rfl : last = name := by
    rw [← List.append_assoc] at hplace
    simpa using (List.append_inj' hplace rfl).2
  rw [List.foldl_concat, isCandidate,
    Path.fileName?_of_pieces hname (Path.pieces_joinText hname _)] at hcandidate
  simp [isComponentName, hwoven] at hcandidate

/-- Texts at the places of results do not change what a directory stands for. -/
theorem filesOfRoot_putTexts (hroot : tree.isDirectory root)
    (htexts : tree.Admits IsWovenPlace texts) :
    filesOfRoot (tree.putTexts texts) workspace ignored root =
      filesOfRoot tree workspace ignored root := by
  obtain ⟨location, hlocate⟩ := exists_locate_of_isDirectory hroot
  have hafter : (tree.putTexts texts).locate root = .ok (location, .directory) := by
    obtain ⟨hwalk, hfind⟩ := locate_eq_ok_iff.mp hlocate
    exact locate_eq_ok_iff.mpr ⟨walk_of_keeps htexts.agree.forth hwalk,
      htexts.agree.directory_iff.mpr hfind⟩
  have hwoven : ∀ entry : Location × Entry, entry.1 ∈ texts.map Prod.fst →
      pathFound? workspace ignored root location entry = none := by
    intro entry hentry
    obtain ⟨text, htext, hplace⟩ := List.mem_map.mp hentry
    exact pathFound?_of_isWovenPlace (hplace ▸ (htexts text htext).1)
  rw [filesOfRoot_of_directory hafter, filesOfRoot_of_directory hlocate, entries_putTexts,
    List.filterMap_append, List.filterMap_filter]
  congr 1
  rw [List.filterMap_eq_nil_iff.mpr fun entry hentry =>
    hwoven entry (place_mem_of_mem_putTexts hentry), List.nil_append]
  apply List.filterMap_congr
  intro entry _
  split
  · rfl
  · next hmem => exact (hwoven entry (by simpa using hmem)).symm

/-! ### All roots -/

theorem exists_mapM_eq_ok {α β ε : Type} {f : α → Except ε β} {items : List α}
    (h : ∀ item ∈ items, ∃ result, f item = .ok result) :
    ∃ results, items.mapM f = .ok results := by
  induction items with
  | nil => exact ⟨[], rfl⟩
  | cons item items ih =>
    obtain ⟨⟨first, hfirst⟩, hrest⟩ := List.forall_mem_cons.mp h
    obtain ⟨rest, hrest⟩ := ih hrest
    refine ⟨first :: rest, ?_⟩
    rw [List.mapM_cons, hfirst, hrest]
    rfl

theorem mapM_congr {α β ε : Type} {f g : α → Except ε β} {items : List α}
    (h : ∀ item ∈ items, f item = g item) : items.mapM f = items.mapM g := by
  induction items with
  | nil => rfl
  | cons item items ih =>
    obtain ⟨hfirst, hrest⟩ := List.forall_mem_cons.mp h
    rw [List.mapM_cons, List.mapM_cons, hfirst, ih hrest]

/-- Under directories, something is discovered, be it nothing. -/
theorem exists_discover (hroots : ∀ root ∈ roots, tree.isDirectory root) (workspace : Path)
    (ignored : String → Bool) :
    ∃ files, discover tree workspace ignored roots = .ok files := by
  have hfound : ∀ root ∈ roots, ∃ files, filesOfRoot tree workspace ignored root = .ok files := by
    intro root hroot
    obtain ⟨location, hlocate⟩ := exists_locate_of_isDirectory (hroots root hroot)
    exact ⟨_, filesOfRoot_of_directory hlocate⟩
  obtain ⟨lists, hlists⟩ := exists_mapM_eq_ok hfound
  exact ⟨dropRepeated (lists.flatten.mergeSort Path.le), by rw [discover, hlists]; rfl⟩

/-- Texts at the places of results do not change what is discovered under directories. -/
theorem discover_putTexts (hroots : ∀ root ∈ roots, tree.isDirectory root)
    (htexts : tree.Admits IsWovenPlace texts) :
    discover (tree.putTexts texts) workspace ignored roots =
      discover tree workspace ignored roots := by
  rw [discover, discover,
    mapM_congr fun root hroot => filesOfRoot_putTexts (hroots root hroot) htexts]

/-! ### Where the files are -/

/-- A tree as it is on a disk: names are names of entries, and what is above an entry is a
directory. -/
structure FileTree.WellFormed (tree : FileTree) : Prop where
  names : ∀ entry ∈ tree.entries, ∀ name ∈ entry.1, Path.IsName name
  above : ∀ entry ∈ tree.entries, ∀ place, place <+: entry.1 → place ≠ entry.1 →
    tree.find? place = some .directory

/-- Names of directories lead from one to the next when they are joined to a path. -/
theorem walk_foldl_joinText (hwalk : tree.walk [] root.pieces = .ok location)
    (hnames : ∀ name ∈ names, Path.IsName name)
    (hdirectories : ∀ front, front <+: names → tree.find? (location ++ front) = some .directory) :
    tree.walk [] (names.foldl Path.joinText root).pieces = .ok (location ++ names) := by
  induction names using List.reverseRecOn with
  | nil => rwa [List.append_nil]
  | append_singleton front name ih =>
    have hfront := ih (fun other hother => hnames other (List.mem_append_left _ hother))
      fun before hbefore => hdirectories before (hbefore.trans (List.prefix_append _ _))
    rw [List.foldl_concat, ← List.append_assoc]
    exact (endsIn_joinText (hnames name (by simp))
      (hdirectories front (List.prefix_append _ _)) hfront).walk

/-- The names that lead from a directory to an entry, joined to the path of the directory. -/
theorem endsIn_foldl_joinText {folders : List String} {entry : Entry} (htree : tree.WellFormed)
    (hlocate : tree.locate root = .ok (location, .directory))
    (hentry : (location ++ (folders ++ [name]), entry) ∈ tree.entries) :
    tree.EndsIn ((folders ++ [name]).foldl Path.joinText root) (location ++ folders) name := by
  obtain ⟨hwalk, -⟩ := locate_eq_ok_iff.mp hlocate
  have hisName : ∀ other ∈ folders ++ [name], Path.IsName other := fun other hother =>
    htree.names _ hentry other (List.mem_append_right _ hother)
  have hdirectories : ∀ before, before <+: folders →
      tree.find? (location ++ before) = some .directory := by
    intro before hbefore
    apply htree.above _ hentry
    · exact (List.prefix_append_right_inj location).mpr (hbefore.trans (List.prefix_append _ _))
    · intro heq
      rw [List.append_cancel_left heq] at hbefore
      exact absurd hbefore.length_le (by simp)
  rw [List.foldl_concat]
  apply endsIn_joinText (hisName name (by simp)) (hdirectories folders List.prefix_rfl)
  exact walk_foldl_joinText hwalk
    (fun other hother => hisName other (List.mem_append_left _ hother)) hdirectories

theorem isCandidate_iff {folder : Location} (h : tree.EndsIn path folder name) :
    isCandidate workspace ignored path ↔
      isComponentName name ∧ ignored (path.relativeTo workspace).text = false := by
  simp [isCandidate, h.fileName?]

/-- A file that is discovered below a directory ends in a directory, with the name of a
component. -/
theorem exists_endsIn_of_discover (htree : tree.WellFormed)
    (hroots : ∀ root ∈ roots, tree.isDirectory root)
    (hfound : discover tree workspace ignored roots = .ok files) (hmem : path ∈ files) :
    ∃ folder name, tree.EndsIn path folder name ∧ isComponentName name := by
  obtain ⟨root, hroot, found, hfiles, hpath⟩ := exists_root_of_discover hfound hmem
  obtain ⟨location, hlocate⟩ := exists_locate_of_isDirectory (hroots root hroot)
  rw [filesOfRoot_of_directory hlocate] at hfiles
  obtain rfl := Except.ok.inj hfiles
  obtain ⟨entry, hentry, hsome⟩ := List.mem_filterMap.mp hpath
  obtain ⟨content, names, rfl, hne, rfl, hcandidate⟩ := pathFound?_eq_some_iff.mp hsome
  obtain ⟨folders, name, rfl⟩ := (List.eq_nil_or_concat' names).resolve_left hne
  have hends := endsIn_foldl_joinText htree hlocate hentry
  exact ⟨location ++ folders, name, hends, ((isCandidate_iff hends).mp hcandidate).1⟩

end SfcWeave
