import Mathlib.Data.List.Infix
import SfcWeave.Command.Run
import SfcWeave.Proofs.Files.Plain
import SfcWeave.Proofs.Files.Rediscovery

/-!
# Exactly the right files are discovered

`FoundUnder` says which paths are to be found under a root: the root itself if it is a file, and
the components below it if it is a directory. What is discovered are these paths in their order,
each list of components once (`exists_mem_discover_iff`). So lists of roots that lead to the same
paths give the same files (`map_components_discover_congr`), in whatever order they come, however
often, and however they overlap.

Paths are compared by components, but what is ignored is told by a text. A root that is spelled
with a piece that leads nowhere (`src/.`) hands its spelling on to the paths below it, and a pattern
that is meant for these paths need not match it. For the roots of `SeenPlain` this makes no
difference, among them all that are spelled plainly (`seenPlain_of_pieces`).
-/

namespace SfcWeave

open FileTree

variable {tree : FileTree} {workspace root above path other : Path} {ignored : String → Bool}
  {skips : Path → Bool} {roots others files found : List Path} {place : Location} {entry : Entry}
  {names folders : List String} {name : String}

/-! ### What is to be found -/

/-- Is a path ignored, in the spelling that it has? -/
def skipsSpelled (workspace : Path) (ignored : String → Bool) (path : Path) : Bool :=
  ignored (path.relativeTo workspace).text

/-- Is a path ignored in its plain spelling? -/
def skipsPlain (workspace : Path) (ignored : String → Bool) (path : Path) : Bool :=
  skipsSpelled workspace ignored path.plain

/-- The plain spelling is that of the components. -/
theorem skipsPlain_congr (h : path.components = other.components) :
    skipsPlain workspace ignored path = skipsPlain workspace ignored other := by
  rw [skipsPlain, Path.plain_eq_plain h, skipsPlain]

/-- What is ignored below a root does not depend on how the root is spelled. -/
def SeenPlain (workspace : Path) (ignored : String → Bool) (root : Path) : Prop :=
  ∀ folders name, (∀ piece ∈ folders ++ [name], Path.IsName piece) →
    skipsSpelled workspace ignored ((folders ++ [name]).foldl Path.joinText root) =
      skipsPlain workspace ignored ((folders ++ [name]).foldl Path.joinText root)

/-- A path that is to be found under a root. -/
inductive FoundUnder (tree : FileTree) (skips : Path → Bool) (root path : Path) : Prop
  | itself : tree.isFile root → path.components = root.components → FoundUnder tree skips root path
  | below {folders : List String} {name : String} {content : Content} :
      tree.isDirectory root →
      path.components = root.components ++ (folders ++ [name]).map Component.name →
      tree.find? path.place = some (.file content) → isComponentName name →
      skips ((folders ++ [name]).foldl Path.joinText root) = false →
      FoundUnder tree skips root path

/-- A root that adds nothing to other roots: it is among them, is to be found under one of them, or
is a directory that has names added to one of them. -/
inductive Covered (tree : FileTree) (skips : Path → Bool) (roots : List Path) (root : Path) : Prop
  | given : root ∈ roots → Covered tree skips roots root
  | file {above : Path} : above ∈ roots → tree.isFile root → FoundUnder tree skips above root →
      Covered tree skips roots root
  | directory {above : Path} {names : List String} : above ∈ roots → tree.isDirectory above →
      tree.isDirectory root → (∀ name ∈ names, Path.IsName name) →
      root.components = above.components ++ names.map Component.name →
      Covered tree skips roots root

/-- A root without pieces that lead nowhere, but for a closing slash. -/
theorem seenPlain_of_pieces
    (h : ∀ piece ∈ Path.dropClosingSlash root.pieces, ¬ Path.isIdle piece) :
    SeenPlain workspace ignored root := by
  intro folders name hnames
  rw [skipsPlain, Path.plain_eq_self (Path.not_isIdle_foldl_joinText h hnames)]

/-! ### Entries of a tree -/

namespace FileTree

theorem isFile_iff :
    tree.isFile path ↔ ∃ location content, tree.locate path = .ok (location, .file content) := by
  unfold isFile
  split
  · next location content h => exact iff_of_true rfl ⟨location, content, h⟩
  · next hother => exact iff_of_false Bool.false_ne_true fun ⟨_, _, h⟩ => hother _ _ h

theorem not_isDirectory_of_isFile (h : tree.isFile path) : ¬ tree.isDirectory path := by
  obtain ⟨location, content, hlocate⟩ := isFile_iff.mp h
  simp [isDirectory, hlocate]

theorem mem_entries_of_find? (hne : place ≠ []) (h : tree.find? place = some entry) :
    (place, entry) ∈ tree.entries := by
  rw [find?, if_neg hne] at h
  obtain ⟨before, after, hentries, -⟩ := List.lookup_eq_some_iff.mp h
  rw [hentries]
  simp

theorem find?_of_mem_entries (hplaces : (tree.entries.map Prod.fst).Nodup) (hne : place ≠ [])
    (h : (place, entry) ∈ tree.entries) : tree.find? place = some entry := by
  obtain ⟨before, after, hentries⟩ := List.append_of_mem h
  rw [hentries, List.map_append, List.map_cons] at hplaces
  have hapart := (List.nodup_append.mp hplaces).2.2
  rw [find?, if_neg hne]
  refine List.lookup_eq_some_iff.mpr ⟨before, after, hentries, ?_⟩
  intro other hother
  rw [bne_iff_ne]
  exact fun heq => hapart _ (List.mem_map_of_mem hother) _ List.mem_cons_self heq.symm

theorem locate_of_isDirectory (h : tree.isDirectory root) :
    tree.locate root = .ok (root.place, .directory) := by
  obtain ⟨location, hlocate⟩ := exists_locate_of_isDirectory h
  obtain rfl : location = root.place :=
    (eq_of_walk (locate_eq_ok_iff.mp hlocate).1).trans (place_eq root).symm
  exact hlocate

/-- What is below a place is called by names. -/
theorem WellFormed.isName_of_find? (htree : tree.WellFormed) (hne : names ≠ [])
    (h : tree.find? (place ++ names) = some entry) : ∀ name ∈ names, Path.IsName name := by
  intro name hname
  have hentry := mem_entries_of_find? (by simp [hne]) h
  exact htree.names _ hentry name (List.mem_append_right _ hname)

end FileTree

/-- The names below a directory that lead to a file. -/
theorem isName_of_below {content : Content} (htree : tree.WellFormed)
    (hpath : path.components = root.components ++ (folders ++ [name]).map Component.name)
    (hfind : tree.find? path.place = some (.file content)) :
    ∀ piece ∈ folders ++ [name], Path.IsName piece := by
  rw [Path.place_append hpath] at hfind
  exact htree.isName_of_find? (by simp) hfind

/-! ### A single root -/

theorem filesOfRoot_of_file (h : tree.isFile root) :
    filesOfRoot tree workspace ignored root = .ok [root] := by
  obtain ⟨location, content, hlocate⟩ := isFile_iff.mp h
  rw [filesOfRoot, hlocate]

theorem filesOfRoot_eq_error_iff :
    filesOfRoot tree workspace ignored root = .error path ↔
      root = path ∧ ¬ (tree.isFile root ∨ tree.isDirectory root) := by
  rcases hlocate : tree.locate root with error | ⟨location, _ | _⟩ <;>
    simp [filesOfRoot, isFile, isDirectory, hlocate]

theorem exists_filesOfRoot_iff :
    (∃ files, filesOfRoot tree workspace ignored root = .ok files) ↔
      tree.isFile root ∨ tree.isDirectory root := by
  rcases hlocate : tree.locate root with error | ⟨location, _ | _⟩ <;>
    simp [filesOfRoot, isFile, isDirectory, hlocate]

theorem mem_filesOfRoot_iff (htree : tree.WellFormed)
    (hplaces : (tree.entries.map Prod.fst).Nodup) (hroot : tree.isDirectory root)
    (h : filesOfRoot tree workspace ignored root = .ok files) :
    path ∈ files ↔ ∃ folders name content, path = (folders ++ [name]).foldl Path.joinText root ∧
      tree.find? (root.place ++ (folders ++ [name])) = some (.file content) ∧
      isComponentName name ∧ skipsSpelled workspace ignored path = false := by
  have hlocate := locate_of_isDirectory hroot
  rw [filesOfRoot_of_directory hlocate] at h
  obtain rfl := Except.ok.inj h
  rw [List.mem_filterMap]
  constructor
  · rintro ⟨entry, hentry, hsome⟩
    obtain ⟨content, names, rfl, hne, rfl, hcandidate⟩ := pathFound?_eq_some_iff.mp hsome
    obtain ⟨folders, name, rfl⟩ := (List.eq_nil_or_concat' names).resolve_left hne
    have hends := endsIn_foldl_joinText htree hlocate hentry
    obtain ⟨hname, hignored⟩ := (isCandidate_iff hends).mp hcandidate
    exact ⟨folders, name, content, rfl, find?_of_mem_entries hplaces (by simp) hentry, hname,
      hignored⟩
  · rintro ⟨folders, name, content, rfl, hfind, hname, hignored⟩
    have hentry := mem_entries_of_find? (by simp) hfind
    have hends := endsIn_foldl_joinText htree hlocate hentry
    refine ⟨_, hentry, pathFound?_eq_some_iff.mpr ⟨content, _, rfl, by simp, rfl, ?_⟩⟩
    exact (isCandidate_iff hends).mpr ⟨hname, hignored⟩

/-- What a root stands for are the paths to be found under it. -/
theorem exists_mem_filesOfRoot_iff (htree : tree.WellFormed)
    (hplaces : (tree.entries.map Prod.fst).Nodup)
    (h : filesOfRoot tree workspace ignored root = .ok files) :
    (∃ file ∈ files, file.components = path.components) ↔
      FoundUnder tree (skipsSpelled workspace ignored) root path := by
  constructor
  · rintro ⟨file, hfile, hsame⟩
    rcases exists_filesOfRoot_iff.mp ⟨files, h⟩ with hroot | hroot
    · rw [filesOfRoot_of_file hroot] at h
      obtain rfl := Except.ok.inj h
      obtain rfl := List.mem_singleton.mp hfile
      exact .itself hroot hsame.symm
    · obtain ⟨folders, name, content, rfl, hfind, hname, hskips⟩ :=
        (mem_filesOfRoot_iff htree hplaces hroot h).mp hfile
      have hnames := htree.isName_of_find? (by simp) hfind
      rw [Path.components_foldl_joinText hnames] at hsame
      rw [← Path.place_append hsame.symm] at hfind
      exact .below hroot hsame.symm hfind hname hskips
  · intro hpath
    cases hpath with
    | itself hroot hsame =>
      rw [filesOfRoot_of_file hroot] at h
      obtain rfl := Except.ok.inj h
      exact ⟨root, List.mem_singleton.mpr rfl, hsame.symm⟩
    | @below folders name content hroot hbelow hfind hname hskips =>
      have hnames := isName_of_below htree hbelow hfind
      rw [Path.place_append hbelow] at hfind
      refine ⟨_, (mem_filesOfRoot_iff htree hplaces hroot h).mpr
        ⟨folders, name, content, rfl, hfind, hname, hskips⟩, ?_⟩
      rw [Path.components_foldl_joinText hnames, hbelow]

/-! ### All roots -/

/-- The error is that of the first root that leads nowhere. -/
theorem discover_eq_error_iff :
    discover tree workspace ignored roots = .error path ↔ ∃ before after,
      roots = before ++ path :: after ∧
      (∀ root ∈ before, tree.isFile root ∨ tree.isDirectory root) ∧
      ¬ (tree.isFile path ∨ tree.isDirectory path) := by
  have hmapM : discover tree workspace ignored roots = .error path ↔
      roots.mapM (filesOfRoot tree workspace ignored) = .error path := by
    rw [discover, Except.bind_eq_error_iff]
    simp [pure, Except.pure]
  rw [hmapM, Except.mapM_eq_error_iff]
  simp only [exists_filesOfRoot_iff, filesOfRoot_eq_error_iff]
  constructor
  · rintro ⟨before, root, after, hroots, hbefore, rfl, hnowhere⟩
    exact ⟨before, after, hroots, hbefore, hnowhere⟩
  · rintro ⟨before, after, hroots, hbefore, hnowhere⟩
    exact ⟨before, path, after, hroots, hbefore, rfl, hnowhere⟩

theorem exists_discover_iff :
    (∃ files, discover tree workspace ignored roots = .ok files) ↔
      ∀ root ∈ roots, tree.isFile root ∨ tree.isDirectory root := by
  constructor
  · rintro ⟨files, h⟩ root hroot
    obtain ⟨lists, hlists, -⟩ := Except.bind_eq_ok_iff.mp h
    obtain ⟨found, -, hfound⟩ := exists_mem_of_mapM hlists hroot
    exact exists_filesOfRoot_iff.mp ⟨found, hfound⟩
  · intro h
    cases hfound : discover tree workspace ignored roots with
    | ok files => exact ⟨files, rfl⟩
    | error path =>
      obtain ⟨before, after, rfl, -, hnowhere⟩ := discover_eq_error_iff.mp hfound
      exact absurd (h path (by simp)) hnowhere

/-- What is discovered are the paths to be found under the roots. -/
theorem exists_mem_discover_iff (htree : tree.WellFormed)
    (hplaces : (tree.entries.map Prod.fst).Nodup)
    (h : discover tree workspace ignored roots = .ok files) :
    (∃ file ∈ files, file.components = path.components) ↔
      ∃ root ∈ roots, FoundUnder tree (skipsSpelled workspace ignored) root path := by
  constructor
  · rintro ⟨file, hfile, hsame⟩
    obtain ⟨root, hroot, found, hfound, hmem⟩ := exists_root_of_discover h hfile
    exact ⟨root, hroot, (exists_mem_filesOfRoot_iff htree hplaces hfound).mp ⟨file, hmem, hsame⟩⟩
  · rintro ⟨root, hroot, hpath⟩
    obtain ⟨lists, hlists, h⟩ := Except.bind_eq_ok_iff.mp h
    obtain rfl := Except.ok.inj h
    obtain ⟨found, hfound, hfiles⟩ := exists_mem_of_mapM hlists hroot
    obtain ⟨file, hfile, hsame⟩ := (exists_mem_filesOfRoot_iff htree hplaces hfiles).mpr hpath
    have hsorted : file ∈ lists.flatten.mergeSort Path.le :=
      List.mem_mergeSort.mpr (List.mem_flatten.mpr ⟨found, hfound, hfile⟩)
    -- what is dropped has a neighbour with its components that stays
    obtain ⟨other, hother, heq⟩ := exists_mem_dropRepeated _ file hsorted
    exact ⟨other, hother, heq.trans hsame⟩

/-- Roots that lead to the same paths give the same files. -/
theorem map_components_discover_congr (htree : tree.WellFormed)
    (hplaces : (tree.entries.map Prod.fst).Nodup)
    (hfiles : discover tree workspace ignored roots = .ok files)
    (hfound : discover tree workspace ignored others = .ok found)
    (h : ∀ path, (∃ root ∈ others, FoundUnder tree (skipsSpelled workspace ignored) root path) ↔
      ∃ root ∈ roots, FoundUnder tree (skipsSpelled workspace ignored) root path) :
    found.map Path.components = files.map Path.components := by
  have hsame : ∀ path : Path, (∃ file ∈ found, file.components = path.components) ↔
      ∃ file ∈ files, file.components = path.components := by
    intro path
    rw [exists_mem_discover_iff htree hplaces hfound, h path,
      exists_mem_discover_iff htree hplaces hfiles]
  have hperm : (found.map Path.components).Perm (files.map Path.components) := by
    apply (List.perm_ext_iff_of_nodup (List.pairwise_map.mpr (pairwise_of_discover hfound))
      (List.pairwise_map.mpr (pairwise_of_discover hfiles))).mpr
    intro components
    simp only [List.mem_map]
    constructor
    · rintro ⟨path, hpath, rfl⟩
      exact (hsame path).mp ⟨path, hpath, rfl⟩
    · rintro ⟨path, hpath, rfl⟩
      exact (hsame path).mpr ⟨path, hpath, rfl⟩
  have hfirst : (found.map Path.components).Pairwise fun as bs => Path.leComponents as bs :=
    List.pairwise_map.mpr (pairwise_le_of_discover hfound)
  have hsecond : (files.map Path.components).Pairwise fun as bs => Path.leComponents as bs :=
    List.pairwise_map.mpr (pairwise_le_of_discover hfiles)
  -- there is one way to put these components in order
  exact hperm.eq_of_pairwise (fun _ _ _ _ => Path.leComponents_antisymm) hfirst hsecond

/-! ### Lists of roots that lead to the same paths -/

theorem FoundUnder.congr (hsame : path.components = other.components)
    (h : FoundUnder tree skips root path) : FoundUnder tree skips root other := by
  cases h with
  | itself hroot hpath => exact .itself hroot (hsame ▸ hpath)
  | below hroot hpath hfind hname hskips =>
    exact .below hroot (hsame ▸ hpath) (Path.place_eq_place hsame ▸ hfind) hname hskips

/-- What is ignored matters below directories alone, in the spelling of the root. -/
theorem FoundUnder.of_skips {skips' : Path → Bool} (htree : tree.WellFormed)
    (hskips : tree.isDirectory root → ∀ folders name,
      (∀ piece ∈ folders ++ [name], Path.IsName piece) →
      skips ((folders ++ [name]).foldl Path.joinText root) =
        skips' ((folders ++ [name]).foldl Path.joinText root))
    (h : FoundUnder tree skips root path) : FoundUnder tree skips' root path := by
  cases h with
  | itself hroot hpath => exact .itself hroot hpath
  | below hroot hpath hfind hname hskip =>
    rw [hskips hroot _ _ (isName_of_below htree hpath hfind)] at hskip
    exact .below hroot hpath hfind hname hskip

theorem foundUnder_iff_of_seenPlain (htree : tree.WellFormed)
    (hroot : tree.isDirectory root → SeenPlain workspace ignored root) :
    FoundUnder tree (skipsSpelled workspace ignored) root path ↔
      FoundUnder tree (skipsPlain workspace ignored) root path := by
  constructor
  · exact FoundUnder.of_skips htree hroot
  · apply FoundUnder.of_skips htree
    intro hdirectory folders name hnames
    exact (hroot hdirectory folders name hnames).symm

/-- What is found under a root that adds nothing is found under the other roots. -/
theorem exists_foundUnder_of_covered (htree : tree.WellFormed)
    (hskips : ∀ a b : Path, a.components = b.components → skips a = skips b)
    (hroot : Covered tree skips roots root) (h : FoundUnder tree skips root path) :
    ∃ above ∈ roots, FoundUnder tree skips above path := by
  cases hroot with
  | given hmem => exact ⟨root, hmem, h⟩
  | @file above hmem hfile habove =>
    cases h with
    | itself _ hpath => exact ⟨above, hmem, habove.congr hpath.symm⟩
    | below hdirectory => exact absurd hdirectory (not_isDirectory_of_isFile hfile)
  | @directory above names hmem habove hdirectory hnames hcomponents =>
    cases h with
    | itself hfile => exact absurd hdirectory (not_isDirectory_of_isFile hfile)
    | @below folders name content _ hpath hfind hname hskip =>
      have hbelow := isName_of_below htree hpath hfind
      have hall : ∀ piece ∈ (names ++ folders) ++ [name], Path.IsName piece := by
        rw [List.append_assoc]
        exact List.forall_mem_append.mpr ⟨hnames, hbelow⟩
      have hcomponents : path.components =
          above.components ++ ((names ++ folders) ++ [name]).map Component.name := by
        rw [hpath, hcomponents, List.append_assoc, ← List.map_append, List.append_assoc]
      refine ⟨above, hmem, .below habove hcomponents hfind hname ?_⟩
      rw [← hskip]
      apply hskips
      rw [Path.components_foldl_joinText hall, Path.components_foldl_joinText hbelow, ← hpath,
        hcomponents]

theorem exists_foundUnder_congr (htree : tree.WellFormed)
    (hskips : ∀ a b : Path, a.components = b.components → skips a = skips b)
    (hroots : ∀ root ∈ roots, Covered tree skips others root)
    (hothers : ∀ root ∈ others, Covered tree skips roots root) :
    (∃ root ∈ others, FoundUnder tree skips root path) ↔
      ∃ root ∈ roots, FoundUnder tree skips root path := by
  constructor
  · rintro ⟨root, hroot, hpath⟩
    exact exists_foundUnder_of_covered htree hskips (hothers root hroot) hpath
  · rintro ⟨root, hroot, hpath⟩
    exact exists_foundUnder_of_covered htree hskips (hroots root hroot) hpath

theorem isFile_or_isDirectory_of_covered
    (hroots : ∀ root ∈ roots, tree.isFile root ∨ tree.isDirectory root)
    (h : Covered tree skips roots root) : tree.isFile root ∨ tree.isDirectory root := by
  cases h with
  | given hmem => exact hroots root hmem
  | file _ hfile _ => exact .inl hfile
  | directory _ _ hdirectory _ _ => exact .inr hdirectory

theorem exists_foundUnder_iff_of_seenPlain (htree : tree.WellFormed)
    (hroots : ∀ root ∈ roots, tree.isDirectory root → SeenPlain workspace ignored root) :
    (∃ root ∈ roots, FoundUnder tree (skipsSpelled workspace ignored) root path) ↔
      ∃ root ∈ roots, FoundUnder tree (skipsPlain workspace ignored) root path := by
  apply exists_congr
  intro root
  exact and_congr_right fun hroot => foundUnder_iff_of_seenPlain htree (hroots root hroot)

/-- The order of the roots, and how often they are given, makes no difference. -/
theorem discover_of_mem_iff (htree : tree.WellFormed)
    (hplaces : (tree.entries.map Prod.fst).Nodup)
    (hfiles : discover tree workspace ignored roots = .ok files)
    (hothers : ∀ root, root ∈ others ↔ root ∈ roots) :
    ∃ found, discover tree workspace ignored others = .ok found ∧
      found.map Path.components = files.map Path.components := by
  have hroots := exists_discover_iff.mp ⟨files, hfiles⟩
  obtain ⟨found, hfound⟩ : ∃ found, discover tree workspace ignored others = .ok found :=
    exists_discover_iff.mpr fun root hroot => hroots root ((hothers root).mp hroot)
  refine ⟨found, hfound, map_components_discover_congr htree hplaces hfiles hfound ?_⟩
  intro path
  simp only [hothers]

/-- Roots that overlap with others make no difference. -/
theorem discover_of_covered (htree : tree.WellFormed)
    (hplaces : (tree.entries.map Prod.fst).Nodup)
    (hfiles : discover tree workspace ignored roots = .ok files)
    (hplain : ∀ root ∈ roots, tree.isDirectory root → SeenPlain workspace ignored root)
    (hplain' : ∀ root ∈ others, tree.isDirectory root → SeenPlain workspace ignored root)
    (hroots : ∀ root ∈ roots, Covered tree (skipsPlain workspace ignored) others root)
    (hothers : ∀ root ∈ others, Covered tree (skipsPlain workspace ignored) roots root) :
    ∃ found, discover tree workspace ignored others = .ok found ∧
      found.map Path.components = files.map Path.components := by
  have hthere := exists_discover_iff.mp ⟨files, hfiles⟩
  obtain ⟨found, hfound⟩ : ∃ found, discover tree workspace ignored others = .ok found :=
    exists_discover_iff.mpr fun root hroot =>
      isFile_or_isDirectory_of_covered hthere (hothers root hroot)
  refine ⟨found, hfound, map_components_discover_congr htree hplaces hfiles hfound ?_⟩
  intro path
  rw [exists_foundUnder_iff_of_seenPlain htree hplain,
    exists_foundUnder_iff_of_seenPlain htree hplain']
  exact exists_foundUnder_congr htree (fun _ _ => skipsPlain_congr) hroots hothers

/-- What is discovered. The error names the first root that leads nowhere. Otherwise the files are
in order without repetition; a path is among them if and only if it is to be found under a root;
and the order of the roots and their repetitions make no difference.

If the spelling of the roots does not matter for what is ignored, a path below a root is found
unless its plain spelling is ignored, and roots that overlap make no difference either. -/
theorem discover_exact (htree : tree.WellFormed) (hplaces : (tree.entries.map Prod.fst).Nodup) :
    (∀ path, discover tree workspace ignored roots = .error path ↔ ∃ before after,
      roots = before ++ path :: after ∧
      (∀ root ∈ before, tree.isFile root ∨ tree.isDirectory root) ∧
      ¬ (tree.isFile path ∨ tree.isDirectory path)) ∧
    ∀ files, discover tree workspace ignored roots = .ok files →
      (files.Pairwise fun a b => a.le b ∧ a.components ≠ b.components) ∧
      (∀ path, (∃ file ∈ files, file.components = path.components) ↔
        ∃ root ∈ roots, FoundUnder tree (skipsSpelled workspace ignored) root path) ∧
      (∀ others, (∀ root, root ∈ others ↔ root ∈ roots) →
        ∃ found, discover tree workspace ignored others = .ok found ∧
          found.map Path.components = files.map Path.components) ∧
      ((∀ root ∈ roots, tree.isDirectory root → SeenPlain workspace ignored root) →
        (∀ path, (∃ file ∈ files, file.components = path.components) ↔
          ∃ root ∈ roots, FoundUnder tree (skipsPlain workspace ignored) root path) ∧
        ∀ others, (∀ root ∈ others, tree.isDirectory root → SeenPlain workspace ignored root) →
          (∀ root ∈ roots, Covered tree (skipsPlain workspace ignored) others root) →
          (∀ root ∈ others, Covered tree (skipsPlain workspace ignored) roots root) →
          ∃ found, discover tree workspace ignored others = .ok found ∧
            found.map Path.components = files.map Path.components) := by
  refine ⟨fun path => discover_eq_error_iff, ?_⟩
  intro files hfiles
  have hfound : ∀ path, (∃ file ∈ files, file.components = path.components) ↔
      ∃ root ∈ roots, FoundUnder tree (skipsSpelled workspace ignored) root path :=
    fun path => exists_mem_discover_iff htree hplaces hfiles
  refine ⟨?_, hfound, ?_, ?_⟩
  · exact (pairwise_le_of_discover hfiles).and (pairwise_of_discover hfiles)
  · intro others hothers
    exact discover_of_mem_iff htree hplaces hfiles hothers
  · intro hplain
    constructor
    · intro path
      rw [hfound path, exists_foundUnder_iff_of_seenPlain htree hplain]
    · intro others hplain' hroots hothers
      exact discover_of_covered htree hplaces hfiles hplain hplain' hroots hothers

/-- A component two directories below a workspace. -/
def nestedTree : FileTree where
  entries := [(["app"], .directory), (["app", "src"], .directory),
    (["app", "src", "legacy"], .directory),
    (["app", "src", "legacy", "Old.vue"], .file (.text ""))]

theorem wellFormed_nestedTree : nestedTree.WellFormed where
  names := by simp [nestedTree, Path.IsName, Path.isIdle]
  above := by
    have habove : ∀ entry ∈ nestedTree.entries, ∀ place ∈ entry.1.inits, place ≠ entry.1 →
        nestedTree.find? place = some .directory := by decide
    intro entry hentry place hplace
    exact habove entry hentry place ((List.mem_inits _ _).mpr hplace)

/-- A directory, another one below it with a slash at its end, and a file below both. -/
theorem discover_exact_nestedTree :
    discover nestedTree (.ofText "/app") (· = "src/New.vue") [.ofText "/app"] =
      .ok [.ofText "/app/src/legacy/Old.vue"] ∧
    ∃ found, discover nestedTree (.ofText "/app") (· = "src/New.vue")
        [.ofText "/app/src/legacy/Old.vue", .ofText "/app/src/", .ofText "/app"] = .ok found ∧
      found.map Path.components = [(Path.ofText "/app/src/legacy/Old.vue").components] := by
  have hroot : filesOfRoot nestedTree (.ofText "/app") (· = "src/New.vue") (.ofText "/app") =
      .ok [.ofText "/app/src/legacy/Old.vue"] := Except.mem_toOption_iff.mp (by decide +kernel)
  have hfound := discover_singleton hroot (List.pairwise_singleton _ _)
    (List.pairwise_singleton _ _)
  have hpieces : ∀ root ∈ [Path.ofText "/app/src/legacy/Old.vue", .ofText "/app/src/",
      .ofText "/app"], ∀ piece ∈ Path.dropClosingSlash root.pieces, ¬ Path.isIdle piece := by
    decide +kernel
  obtain ⟨-, -, -, hexact⟩ := (discover_exact wellFormed_nestedTree (by decide)).2 _ hfound
  obtain ⟨hiff, hcovered⟩ := hexact <| List.forall_mem_singleton.mpr fun _ =>
    seenPlain_of_pieces (hpieces _ (by simp))
  refine ⟨hfound, hcovered _ (fun root hroot _ => seenPlain_of_pieces (hpieces root hroot)) ?_ ?_⟩
  · exact List.forall_mem_singleton.mpr (.given (by simp))
  · obtain ⟨root, hmem, hbelow⟩ := (hiff _).mp ⟨_, List.mem_cons_self, rfl⟩
    have hnames : ∀ name ∈ ["src"], Path.IsName name := by simp [Path.IsName, Path.isIdle]
    simp only [List.forall_mem_cons]
    refine ⟨.file hmem (by decide +kernel) hbelow, ?_, .given List.mem_cons_self, by simp⟩
    exact .directory List.mem_cons_self (by decide +kernel) (by decide +kernel) hnames
      (by decide +kernel)

/-- A root that is given once more in another spelling leads to a file that is ignored. -/
theorem discover_sees_spelling :
    (Path.ofText "/app/src/.").components = (Path.ofText "/app/src").components ∧
    (Path.ofText "/app/src/./legacy/Old.vue").components =
      (Path.ofText "/app/src/legacy/Old.vue").components ∧
    ∃ ignored, Run.ignoreSet ["src/legacy/**"] = .ok ignored ∧
      ignored ((Path.ofText "/app/src/legacy/Old.vue").relativeTo (.ofText "/app")).text ∧
      discover nestedTree (.ofText "/app") ignored [.ofText "/app/src"] = .ok [] ∧
      discover nestedTree (.ofText "/app") ignored [.ofText "/app/src", .ofText "/app/src/."] =
        .ok [.ofText "/app/src/./legacy/Old.vue"] := by
  refine ⟨by decide +kernel, by decide +kernel, ?_⟩
  have hfound : (Run.ignoreSet ["src/legacy/**"]).toOption.map (fun ignored =>
      (ignored ((Path.ofText "/app/src/legacy/Old.vue").relativeTo (.ofText "/app")).text,
        (filesOfRoot nestedTree (.ofText "/app") ignored (.ofText "/app/src")).toOption,
        ([Path.ofText "/app/src", Path.ofText "/app/src/."].mapM
          (filesOfRoot nestedTree (.ofText "/app") ignored)).toOption)) =
      some (true, some [], some [[], [.ofText "/app/src/./legacy/Old.vue"]]) := by
    decide +kernel
  rcases hset : Run.ignoreSet ["src/legacy/**"] with error | ignored
  · rw [hset] at hfound
    cases hfound
  · rw [hset] at hfound
    obtain ⟨hignored, hrest⟩ := Prod.mk.inj (Option.some.inj hfound)
    obtain ⟨hfiles, hlists⟩ := Prod.mk.inj hrest
    refine ⟨ignored, rfl, hignored, ?_, ?_⟩
    · exact discover_singleton (Except.mem_toOption_iff.mp hfiles) .nil .nil
    · exact discover_of_pairwise (Except.mem_toOption_iff.mp hlists)
        (List.pairwise_singleton _ _) (List.pairwise_singleton _ _)

end SfcWeave
