import SfcWeave.Files.Tree
import SfcWeave.Proofs.Files.Path
import SfcWeave.Proofs.Result

/-!
# What writing a file changes

Writing a file makes directories where nothing has been, puts the text at the place of the path,
and leaves every other file as it is (`FileAction.write_spec`):

    Keeps (· = path.place) tree after ∧ (result = .ok () → after.readText path = .ok text)

Directories stay directories, so that a path that has led somewhere goes on leading there
(`walk_of_keeps`), and a file that is written once is read until its place is written again.
-/

namespace SfcWeave

namespace FileTree

variable {tree between after : FileTree} {location place last : Location} {entry : Entry}
  {path : Path} {pieces : List String} {written : Location → Prop}

/-! ### Entries -/

theorem lookup_filter_ne (entries : List (Location × Entry)) (h : location ≠ place) :
    (entries.filter fun other => other.1 ≠ place).lookup location = entries.lookup location := by
  induction entries with
  | nil => rfl
  | cons other entries ih =>
    obtain ⟨key, entry⟩ := other
    by_cases hkey : key = place
    · subst hkey
      rw [List.filter_cons_of_neg (by simp), ih, List.lookup_cons,
        beq_eq_false_iff_ne.mpr h]
    · rw [List.filter_cons_of_pos (by simpa using hkey), List.lookup_cons, List.lookup_cons, ih]

theorem find?_put (hplace : place ≠ []) :
    (tree.put place entry).find? location =
      if location = place then some entry else tree.find? location := by
  by_cases h : location = place
  · subst h
    simp [find?, put, hplace]
  · rw [if_neg h]
    unfold find? put
    rw [List.lookup_cons, beq_eq_false_iff_ne.mpr h, lookup_filter_ne _ h]

/-! ### What stays -/

/-- A tree has come about from another by making directories and by writing files at some places
only. -/
structure Keeps (written : Location → Prop) (tree after : FileTree) : Prop where
  directories : ∀ location, tree.find? location = some .directory →
    after.find? location = some .directory
  files : ∀ location, ¬ written location → ∀ content,
    after.find? location = some (.file content) ↔ tree.find? location = some (.file content)

theorem Keeps.refl (written : Location → Prop) (tree : FileTree) : Keeps written tree tree :=
  ⟨fun _ h => h, fun _ _ _ => Iff.rfl⟩

theorem Keeps.trans (h : Keeps written tree between) (hrest : Keeps written between after) :
    Keeps written tree after where
  directories location hlocation := hrest.directories location (h.directories location hlocation)
  files location hwritten content :=
    (hrest.files location hwritten content).trans (h.files location hwritten content)

theorem Keeps.mono {others : Location → Prop} (h : Keeps written tree after)
    (hle : ∀ location, written location → others location) : Keeps others tree after where
  directories := h.directories
  files location hothers := h.files location fun hwritten => hothers (hle location hwritten)

theorem keeps_put (hplace : place ≠ []) (hfree : tree.find? place ≠ some .directory)
    (hfile : written place ∨ (tree.find? place = none ∧ entry = .directory)) :
    Keeps written tree (tree.put place entry) where
  directories location h := by
    rw [find?_put hplace, if_neg]
    · exact h
    · rintro rfl
      exact hfree h
  files location hwritten content := by
    rw [find?_put hplace]
    split
    · next heq =>
      subst heq
      obtain ⟨hnone, rfl⟩ := hfile.resolve_left hwritten
      simp [hnone]
    · rfl

/-! ### Ways -/

/-- The place that a walk ends at does not depend on the tree. -/
theorem eq_of_walk (h : tree.walk location pieces = .ok last) :
    last = (Path.steps pieces).foldl Component.follow location := by
  fun_induction walk tree location pieces with
  | case1 location => exact (Except.ok.inj h).symm
  | case2 | case3 => cases h
  | case4 location piece pieces hfind hidle ih =>
    rw [Path.steps, List.filterMap_cons_none (by rw [if_pos hidle])]
    exact ih h
  | case5 location pieces hfind hidle ih => exact ih h
  | case6 location piece pieces hfind hidle hup ih =>
    rw [ih h, show piece :: pieces = [piece] ++ pieces from rfl, Path.steps_append]
    simp [Path.steps, hidle, hup, Component.follow]

/-- A walk is possible in every tree that has the directories on its way. -/
theorem walk_of_keeps (hkeeps : Keeps written tree after)
    (h : tree.walk location pieces = .ok last) : after.walk location pieces = .ok last := by
  fun_induction walk tree location pieces with
  | case1 location => exact h
  | case2 | case3 => cases h
  | case4 location piece pieces hfind hidle ih =>
    rw [walk, hkeeps.directories _ hfind]
    simpa [hidle] using ih h
  | case5 location pieces hfind hidle ih =>
    rw [walk, hkeeps.directories _ hfind]
    simpa [hidle] using ih h
  | case6 location piece pieces hfind hidle hup ih =>
    rw [walk, hkeeps.directories _ hfind]
    simpa [hidle, hup] using ih h

theorem walk_append (first rest : List String) :
    tree.walk location (first ++ rest) =
      tree.walk location first >>= fun between => tree.walk between rest := by
  fun_induction walk tree location first with
  | case1 location => rfl
  | case2 location piece pieces hfind => simp [walk, hfind, bind, Except.bind]
  | case3 location piece pieces content hfind => simp [walk, hfind, bind, Except.bind]
  | case4 location piece pieces hfind hidle ih => simpa [walk, hfind, hidle] using ih
  | case5 location pieces hfind hidle ih => simpa [walk, hfind, hidle] using ih
  | case6 location piece pieces hfind hidle hup ih => simpa [walk, hfind, hidle, hup] using ih

theorem place_eq (path : Path) :
    path.place = (Path.steps path.pieces).foldl Component.follow [] := by
  obtain ⟨start, pieces⟩ := path
  rw [Path.place, Path.components, List.foldl_append]
  cases start <;> rfl

theorem locate_eq_ok_iff : tree.locate path = .ok (location, entry) ↔
    tree.walk [] path.pieces = .ok location ∧ tree.find? location = some entry := by
  unfold locate
  rcases tree.walk [] path.pieces with error | last
  · simp
  · simp only [Except.ok.injEq]
    constructor
    · intro h
      split at h
      · cases h
        exact ⟨rfl, by assumption⟩
      · cases h
    · rintro ⟨rfl, hfind⟩
      rw [hfind]

theorem readText_eq_ok_iff {text : String} : tree.readText path = .ok text ↔
    tree.walk [] path.pieces = .ok path.place ∧
      tree.find? path.place = some (.file (.text text)) := by
  have hlocate : tree.readText path = .ok text ↔
      ∃ location, tree.locate path = .ok (location, .file (.text text)) := by
    unfold readText read
    rcases tree.locate path with error | ⟨location, content | _⟩
    · simp
    · cases content <;> simp
    · simp
  simp only [hlocate, locate_eq_ok_iff]
  constructor
  · rintro ⟨location, hwalk, hfind⟩
    obtain rfl : location = path.place := (eq_of_walk hwalk).trans (place_eq path).symm
    exact ⟨hwalk, hfind⟩
  · rintro ⟨hwalk, hfind⟩
    exact ⟨_, hwalk, hfind⟩

/-- A file that can be read can be read until its place is written. -/
theorem readText_of_keeps {text : String} (hkeeps : Keeps written tree after)
    (hplace : ¬ written path.place) (h : tree.readText path = .ok text) :
    after.readText path = .ok text := by
  obtain ⟨hwalk, hfind⟩ := readText_eq_ok_iff.mp h
  exact readText_eq_ok_iff.mpr
    ⟨walk_of_keeps hkeeps hwalk, (hkeeps.files _ hplace _).mpr hfind⟩

/-- Everything above a place that a walk has reached is a directory. -/
theorem directory_of_isPrefix_walk (h : tree.walk location pieces = .ok last)
    (hstart : ∀ above, above <+: location → above ≠ location →
      tree.find? above = some .directory) :
    ∀ above, above <+: last → above ≠ last → tree.find? above = some .directory := by
  fun_induction walk tree location pieces with
  | case1 location =>
    cases h
    exact hstart
  | case2 | case3 => cases h
  | case4 location piece pieces hfind hidle ih => exact ih h hstart
  | case5 location pieces hfind hidle ih =>
    apply ih h
    intro above habove hne
    refine hstart above (habove.trans (List.dropLast_prefix location)) ?_
    rintro rfl
    exact hne (habove.eq_of_length_le (by simp))
  | case6 location piece pieces hfind hidle hup ih =>
    apply ih h
    intro above habove hne
    rcases List.prefix_concat_iff.mp habove with rfl | habove
    · exact absurd rfl hne
    · by_cases heq : above = location
      · rw [heq, hfind]
      · exact hstart above habove heq

theorem walk_singleton {piece : String} (h : tree.find? location = some .directory) :
    tree.walk location [piece] = .ok (if Path.isIdle piece then location
      else if piece = ".." then location.dropLast else location ++ [piece]) := by
  simp only [walk, h]
  split
  · rfl
  · split <;> rfl

theorem directory_of_walk_cons {piece : String}
    (h : tree.walk location (piece :: pieces) = .ok last) :
    tree.find? location = some .directory := by
  rw [walk] at h
  split at h
  · cases h
  · cases h
  · assumption

/-- A path to a file ends in the name of the file. -/
theorem exists_fileName_of_locate {content : Content}
    (h : tree.locate path = .ok (location, .file content)) :
    ∃ name, path.fileName? = some name := by
  obtain ⟨hwalk, hfind⟩ := locate_eq_ok_iff.mp h
  rcases List.eq_nil_or_concat path.pieces with hnil | ⟨front, last, hpieces⟩
  · rw [hnil] at hwalk
    cases hwalk
    simp [find?] at hfind
  · rw [List.concat_eq_append] at hpieces
    rw [hpieces, walk_append] at hwalk
    obtain ⟨between, hfront, hlast⟩ := Except.bind_eq_ok_iff.mp hwalk
    have hdirectory := directory_of_walk_cons hlast
    rw [walk_singleton hdirectory] at hlast
    obtain rfl := Except.ok.inj hlast
    by_cases hidle : Path.isIdle last
    · rw [if_pos hidle, hdirectory] at hfind
      cases hfind
    · rw [if_neg hidle] at hfind
      by_cases hup : last = ".."
      · -- the directory above one that has been reached is no file
        rw [if_pos hup] at hfind
        have habove : tree.find? between.dropLast = some .directory := by
          by_cases hroot : between = []
          · rw [hroot]
            rfl
          · apply directory_of_isPrefix_walk hfront (by simp) _ (List.dropLast_prefix between)
            intro heq
            have hlength := congrArg List.length heq
            have hpos := List.length_pos_iff.mpr hroot
            rw [List.length_dropLast] at hlength
            omega
        rw [habove] at hfind
        cases hfind
      · refine ⟨last, Path.fileName?_eq_some_iff.mpr
          ⟨Path.lead path.start ++ Path.steps front, ?_⟩⟩
        rw [Path.components, hpieces, Path.steps_append, List.append_assoc]
        simp [Path.steps, hidle, hup]

/-! ### Writing -/

theorem placeFor_eq_ok_iff {front : List String} {name : String} :
    tree.placeFor front name = .ok place ↔ ∃ folder,
      tree.walk [] front = .ok folder ∧ tree.find? folder = some .directory ∧
      place = folder ++ [name] := by
  unfold placeFor
  rcases tree.walk [] front with error | folder
  · simp
  · rcases hfind : tree.find? folder with _ | content | _ <;> simp [hfind, eq_comm]

theorem keeps_makeDirectory (h : tree.makeDirectory pieces = .ok after) :
    Keeps (fun _ => False) tree after := by
  cases pieces with
  | nil => cases h
  | cons name before =>
    rw [makeDirectory] at h
    rcases hplace : tree.placeFor before.reverse name with error | place
    · rw [hplace] at h
      cases h
    · simp only [hplace] at h
      split at h
      · cases h
      · next hfree =>
        cases h
        obtain ⟨folder, -, -, rfl⟩ := placeFor_eq_ok_iff.mp hplace
        have hnone : tree.find? (folder ++ [name]) = none := by
          simp only [Bool.or_eq_true, not_or, Option.not_isSome_iff_eq_none] at hfree
          exact hfree.2
        exact keeps_put (by simp) (by simp [hnone]) (.inr ⟨hnone, rfl⟩)

/-- A text that is written is what is read afterwards. -/
theorem writeText_spec {text : String} (h : tree.writeText path text = .ok after) :
    Keeps (· = path.place) tree after ∧ after.readText path = .ok text := by
  unfold writeText at h
  split at h
  · cases h
  · next name hlast =>
    obtain ⟨front, hpieces⟩ := List.getLast?_eq_some_iff.mp hlast
    rw [hpieces, List.dropLast_concat] at h
    split at h
    · cases h
    · next location hplaceFor =>
      split at h
      · cases h
      · next hfree =>
        cases h
        simp only [isNoName, Bool.or_eq_true, decide_eq_true_eq, not_or] at hfree
        obtain ⟨⟨hidle, hup⟩, hfree⟩ := hfree
        obtain ⟨folder, hwalk, hfolder, rfl⟩ := placeFor_eq_ok_iff.mp hplaceFor
        have hplace : path.place = folder ++ [name] := by
          rw [place_eq, hpieces, Path.steps_append, List.foldl_append, ← eq_of_walk hwalk]
          simp [Path.steps, hidle, hup, Component.follow]
        have hkeeps : Keeps (· = path.place) tree
            (tree.put (folder ++ [name]) (.file (.text text))) :=
          keeps_put (by simp) hfree (.inl hplace.symm)
        refine ⟨hkeeps, readText_eq_ok_iff.mpr ⟨?_, ?_⟩⟩
        · rw [hpieces, walk_append, walk_of_keeps hkeeps hwalk, hplace]
          simp only [bind, Except.bind]
          rw [walk_singleton (hkeeps.directories _ hfolder), if_neg hidle, if_neg hup]
        · rw [hplace, find?_put (by simp), if_pos rfl]

end FileTree

namespace FileAction

open FileTree

variable {α β : Type} {tree after : FileTree}

/-- An action that makes directories at most. -/
def OnlyGrows (action : FileAction α) : Prop :=
  ∀ tree, Keeps (fun _ => False) tree (action.run.run tree).2

theorem onlyGrows_pure (value : α) : OnlyGrows (pure value) := fun tree => Keeps.refl _ tree

theorem onlyGrows_throw (error : SystemError) : OnlyGrows (throw error : FileAction α) :=
  fun tree => Keeps.refl _ tree

theorem onlyGrows_get : OnlyGrows (get : FileAction FileTree) := fun tree => Keeps.refl _ tree

theorem OnlyGrows.bind {action : FileAction α} {next : α → FileAction β} (h : OnlyGrows action)
    (hnext : ∀ value, OnlyGrows (next value)) : OnlyGrows (action >>= next) := by
  intro tree
  have hfirst := h tree
  rw [ExceptT.run_run_bind]
  rcases hrun : action.run.run tree with ⟨error | value, between⟩
  · rw [hrun] at hfirst
    exact hfirst
  · rw [hrun] at hfirst
    exact hfirst.trans (hnext value between)

theorem run_run_tryCatch (action : FileAction α) (handle : SystemError → FileAction α)
    (tree : FileTree) :
    (tryCatch action handle).run.run tree =
      match action.run.run tree with
      | (.ok value, next) => (.ok value, next)
      | (.error error, next) => (handle error).run.run next := by
  change ExceptT.run (ExceptT.tryCatch action handle) tree = _
  unfold ExceptT.tryCatch
  simp only [ExceptT.run, ExceptT.mk, bind, StateT.bind, StateT.run]
  rcases action tree with ⟨error | value, between⟩ <;> rfl

theorem OnlyGrows.tryCatch {action : FileAction α} {handle : SystemError → FileAction α}
    (h : OnlyGrows action) (hhandle : ∀ error, OnlyGrows (handle error)) :
    OnlyGrows (tryCatch action handle) := by
  intro tree
  have hfirst := h tree
  rw [run_run_tryCatch]
  rcases hrun : action.run.run tree with ⟨error | value, between⟩
  · rw [hrun] at hfirst
    exact hfirst.trans (hhandle error between)
  · rw [hrun] at hfirst
    exact hfirst

theorem run_run_attempt (change : FileTree → Except SystemError FileTree) (tree : FileTree) :
    (attempt change).run.run tree =
      match change tree with
      | .ok changed => (.ok (), changed)
      | .error error => (.error error, tree) := rfl

theorem onlyGrows_makeDirectory (pieces : List String) :
    OnlyGrows (attempt fun tree => tree.makeDirectory pieces) := by
  intro tree
  rw [run_run_attempt]
  rcases h : tree.makeDirectory pieces with error | changed
  · exact Keeps.refl _ tree
  · exact keeps_makeDirectory h

theorem onlyGrows_unlessDirectory (pieces : List String) (error : SystemError) :
    OnlyGrows (unlessDirectory pieces error) := by
  apply onlyGrows_get.bind
  intro tree
  split
  · exact onlyGrows_pure ()
  · exact onlyGrows_throw error

theorem onlyGrows_makeDirectories (pieces : List String) : OnlyGrows (makeDirectories pieces) := by
  induction pieces with
  | nil => exact onlyGrows_pure ()
  | cons name before ih =>
    apply (onlyGrows_makeDirectory (name :: before)).tryCatch
    intro error
    split
    · apply ih.bind
      intro
      exact (onlyGrows_makeDirectory (name :: before)).tryCatch fun error =>
        onlyGrows_unlessDirectory (name :: before) error
    · exact onlyGrows_unlessDirectory (name :: before) _

/-- An action that grows the tree may go before a text is written. -/
theorem OnlyGrows.writeText_spec {action : FileAction Unit} {path : Path} {text : String}
    {result : Except SystemError Unit} (hgrows : OnlyGrows action)
    (h : (action >>= fun _ => attempt fun tree => tree.writeText path text).run.run tree =
      (result, after)) :
    Keeps (· = path.place) tree after ∧ (result = .ok () → after.readText path = .ok text) := by
  have hfirst : Keeps (· = path.place) tree (action.run.run tree).2 :=
    (hgrows tree).mono fun _ => False.elim
  rw [ExceptT.run_run_bind] at h
  rcases hrun : action.run.run tree with ⟨error | ⟨⟩, between⟩
  · simp only [hrun] at h hfirst
    cases h
    exact ⟨hfirst, nofun⟩
  · simp only [hrun, run_run_attempt] at h hfirst
    rcases hwrite : between.writeText path text with error | changed
    · simp only [hwrite] at h
      cases h
      exact ⟨hfirst, nofun⟩
    · simp only [hwrite] at h
      cases h
      obtain ⟨hkeeps, hread⟩ := FileTree.writeText_spec hwrite
      exact ⟨hfirst.trans hkeeps, fun _ => hread⟩

/-- Writing a file makes directories and then writes at the place of the path, if it does not fail
before. What it has written is read afterwards. -/
theorem write_spec {path : Path} {text : String} {result : Except SystemError Unit}
    (h : (write path text).run.run tree = (result, after)) :
    Keeps (· = path.place) tree after ∧ (result = .ok () → after.readText path = .ok text) := by
  unfold write at h
  split at h
  · exact (onlyGrows_makeDirectories _).writeText_spec h
  · exact (onlyGrows_pure ()).writeText_spec h

end FileAction

end SfcWeave
