import SfcWeave.Proofs.Files.Tree

/-!
# Writing into a directory that is there

A path ends in a directory if that is where all its pieces but the last lead to, and the last one
is a name (`FileTree.EndsIn`). No directory has to be made for a file there, so that writing it
does nothing but to put it at its place, unless a directory has this place already:

    (write path text).run.run tree =
      if tree.find? (folder ++ [name]) = some .directory then (.error .isDirectory, tree)
      else (.ok (), tree.put (folder ++ [name]) (.file (.text text)))
-/

namespace SfcWeave

namespace Path

variable {path : Path} {front : List String} {name : String}

theorem trimEnd_concat (h : ¬ isIdle name) : trimEnd (front ++ [name]) = front ++ [name] := by
  rw [trimEnd, List.reverse_append, List.reverse_singleton, List.singleton_append,
    List.dropWhile_cons_of_neg h, List.reverse_cons, List.reverse_reverse]

/-- The directory of a path that ends in a name has the other pieces. -/
theorem parent?_of_pieces (hname : IsName name) (hpieces : path.pieces = front ++ [name]) :
    path.parent? = some ⟨path.start, trimEnd front⟩ := by
  unfold parent?
  rw [hpieces, trimEnd_concat hname.1]
  split
  · next h => simp at h
  · next first rest h => rw [← h, List.dropLast_concat]

/-- A name that is joined to a path is its last piece. -/
theorem pieces_joinText (hname : IsName name) (path : Path) : (path.joinText name).pieces =
    (if path.text = "" then [] else dropClosingSlash path.pieces) ++ [name] := by
  rw [joinText, ofText_of_isName hname, join]
  by_cases htext : path.text = "" <;> simp [htext, isAbsolute, continuation]

theorem fileName?_of_pieces (hname : IsName name) (hpieces : path.pieces = front ++ [name]) :
    path.fileName? = some name := by
  rw [fileName?_eq_some_iff]
  refine ⟨lead path.start ++ steps front, ?_⟩
  rw [components, hpieces, steps_append, steps_singleton hname, List.append_assoc]

end Path

namespace FileTree

variable {tree after : FileTree} {location last folder : Location} {path : Path}
  {pieces idle : List String} {name old : String} {written : Location → Prop}

/-! ### Pieces that lead nowhere -/

theorem walk_of_append_idle (hidle : ∀ piece ∈ idle, Path.isIdle piece)
    (h : tree.walk location (pieces ++ idle) = .ok last) :
    tree.walk location pieces = .ok last := by
  rw [walk_append] at h
  obtain ⟨between, hpieces, hbetween⟩ := Except.bind_eq_ok_iff.mp h
  obtain rfl : last = between := by
    rw [eq_of_walk hbetween, Path.steps_eq_nil hidle, List.foldl_nil]
  exact hpieces

theorem walk_trimEnd (h : tree.walk location pieces = .ok last) :
    tree.walk location (Path.trimEnd pieces) = .ok last := by
  obtain ⟨idle, hpieces, hidle⟩ := Path.exists_trimEnd_append pieces
  rw [hpieces] at h
  exact walk_of_append_idle hidle h

theorem walk_dropClosingSlash (h : tree.walk location pieces = .ok last) :
    tree.walk location (Path.dropClosingSlash pieces) = .ok last := by
  unfold Path.dropClosingSlash
  split
  · next hclosing =>
    obtain ⟨front, rfl⟩ := List.getLast?_eq_some_iff.mp hclosing
    rw [List.dropLast_concat]
    exact walk_of_append_idle (List.forall_mem_singleton.mpr rfl) h
  · exact h

/-! ### Paths into a directory -/

/-- A path ends in a directory with a name: all its pieces but the name lead to the directory. -/
structure EndsIn (tree : FileTree) (path : Path) (folder : Location) (name : String) : Prop where
  isName : Path.IsName name
  directory : tree.find? folder = some .directory
  exists_front : ∃ front, path.pieces = front ++ [name] ∧ tree.walk [] front = .ok folder

namespace EndsIn

theorem walk (h : tree.EndsIn path folder name) :
    tree.walk [] path.pieces = .ok (folder ++ [name]) := by
  obtain ⟨⟨hidle, hup, -⟩, hdirectory, front, hpieces, hwalk⟩ := h
  rw [hpieces, walk_append, hwalk]
  simp only [bind, Except.bind]
  rw [walk_singleton hdirectory, if_neg hidle, if_neg hup]

theorem fileName? (h : tree.EndsIn path folder name) : path.fileName? = some name := by
  obtain ⟨front, hpieces, -⟩ := h.exists_front
  exact Path.fileName?_of_pieces h.isName hpieces

/-- Directories stay, and with them the way of the path. -/
theorem of_keeps (hkeeps : Keeps written tree after) (h : tree.EndsIn path folder name) :
    after.EndsIn path folder name where
  isName := h.isName
  directory := hkeeps.directories _ h.directory
  exists_front := by
    obtain ⟨front, hpieces, hwalk⟩ := h.exists_front
    exact ⟨front, hpieces, walk_of_keeps hkeeps hwalk⟩

end EndsIn

/-- A name that is joined to the path of a directory ends in that directory. -/
theorem endsIn_joinText (hname : Path.IsName name)
    (hdirectory : tree.find? folder = some .directory)
    (hwalk : tree.walk [] path.pieces = .ok folder) :
    tree.EndsIn (path.joinText name) folder name := by
  refine ⟨hname, hdirectory, _, Path.pieces_joinText hname path, ?_⟩
  split
  · next htext =>
    -- a path without a text leads to the root
    rw [eq_of_walk hwalk, ← place_eq, Path.place, Path.components_of_text_eq htext]
    rfl
  · exact walk_dropClosingSlash hwalk

/-- A file with another name ends in the same directory. -/
theorem EndsIn.withFileName (h : tree.EndsIn path folder old) (hname : Path.IsName name) :
    tree.EndsIn (path.withFileName name) folder name := by
  obtain ⟨front, hpieces, hwalk⟩ := h.exists_front
  simp only [Path.withFileName, h.fileName?, Path.parent?_of_pieces h.isName hpieces,
    Option.getD_some]
  exact endsIn_joinText hname h.directory (walk_trimEnd hwalk)

end FileTree

namespace FileAction

open FileTree

variable {tree : FileTree} {folder : Location} {path : Path} {pieces : List String} {name : String}

theorem run_unlessDirectory (pieces : List String) (error : SystemError) (tree : FileTree) :
    (unlessDirectory pieces error).run.run tree =
      if tree.isDirectory ⟨.root, pieces.reverse⟩ then (.ok (), tree)
      else (.error error, tree) := by
  unfold unlessDirectory
  rw [ExceptT.run_run_bind]
  change ExceptT.run (if tree.isDirectory ⟨.root, pieces.reverse⟩ then
    (pure () : FileAction Unit) else throw error) tree = _
  split <;> rfl

/-- A directory that is there need not be made. -/
theorem run_makeDirectories (hdirectory : tree.find? folder = some .directory)
    (hwalk : tree.walk [] pieces = .ok folder) :
    (makeDirectories pieces.reverse).run.run tree = (.ok (), tree) := by
  rcases List.eq_nil_or_concat pieces with rfl | ⟨front, last, hpieces⟩
  · rfl
  rw [List.concat_eq_append] at hpieces
  rw [hpieces, walk_append] at hwalk
  obtain ⟨between, hfront, hlast⟩ := Except.bind_eq_ok_iff.mp hwalk
  have hbetween := directory_of_walk_cons hlast
  -- to make it fails, as something is there
  have hmake : tree.makeDirectory (last :: front.reverse) = .error .alreadyExists := by
    have hplace : tree.placeFor front.reverse.reverse last = .ok (between ++ [last]) := by
      rw [List.reverse_reverse]
      exact placeFor_eq_ok_iff.mpr ⟨between, hfront, hbetween, rfl⟩
    rw [makeDirectory, hplace]
    dsimp only
    rw [if_pos]
    by_cases hno : isNoName last
    · simp [hno]
    · have hfolder : folder = between ++ [last] := by
        rw [walk_singleton hbetween] at hlast
        simp_all [isNoName]
      simp [← hfolder, hdirectory]
  -- and what is there is a directory
  have hthere : tree.isDirectory ⟨.root, (last :: front.reverse).reverse⟩ = true := by
    have hlocate :
        tree.locate ⟨.root, (last :: front.reverse).reverse⟩ = .ok (folder, .directory) :=
      locate_eq_ok_iff.mpr ⟨by simpa [walk_append] using hwalk, hdirectory⟩
    rw [isDirectory, hlocate]
  rw [hpieces, List.reverse_append, List.reverse_singleton, List.singleton_append,
    makeDirectories, run_run_tryCatch, run_run_attempt, hmake]
  dsimp only
  rw [run_unlessDirectory, if_pos hthere]

/-- In a directory that is there, a file is put at its place, unless that is a directory. -/
theorem run_write (h : tree.EndsIn path folder name) (text : String) :
    (write path text).run.run tree =
      if tree.find? (folder ++ [name]) = some .directory then (.error .isDirectory, tree)
      else (.ok (), tree.put (folder ++ [name]) (.file (.text text))) := by
  obtain ⟨front, hpieces, hwalk⟩ := h.exists_front
  have hplace : tree.placeFor front name = .ok (folder ++ [name]) :=
    placeFor_eq_ok_iff.mpr ⟨folder, hwalk, h.directory, rfl⟩
  have hno : isNoName name = false := by
    obtain ⟨hidle, hup, -⟩ := h.isName
    simp [isNoName, hidle, hup]
  have hwrite : tree.writeText path text =
      if tree.find? (folder ++ [name]) = some .directory then .error .isDirectory
      else .ok (tree.put (folder ++ [name]) (.file (.text text))) := by
    simp [writeText, hpieces, hplace, hno]
  rw [write, Path.parent?_of_pieces h.isName hpieces, ExceptT.run_run_bind,
    run_makeDirectories h.directory (walk_trimEnd hwalk)]
  dsimp only
  rw [run_run_attempt, hwrite]
  by_cases htaken : tree.find? (folder ++ [name]) = some .directory
  · rw [if_pos htaken, if_pos htaken]
  · rw [if_neg htaken, if_neg htaken]

end FileAction

end SfcWeave
