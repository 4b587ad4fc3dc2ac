import Mathlib.Data.List.TakeWhile
import SfcWeave.Files.Path
import SfcWeave.Proofs.Text.Indent

/-!
# What paths stand for

Operations on paths work with pieces and keep the text as it is. What they mean is said here by
components: `join` appends them, `parent?` drops the last one, `below?` drops those of the base.

A path has a place in the file tree that does not depend on what is in the tree: `..` takes one
name back (`Path.place`). Paths with the same components have the same place, but `..` makes other
spellings of it possible.
-/

namespace SfcWeave

/-- Where a component leads to from a place. -/
def Component.follow (location : List String) : Component → List String
  | root => []
  | current => location
  | parent => location.dropLast
  | .name next => location ++ [next]

namespace Path

variable {path next base directory : Path} {pieces : List String} {name : String}

/-- The place of a path: the names that remain when every `..` has taken one back. -/
def place (path : Path) : List String := path.components.foldl Component.follow []

/-- The place of the directory that a path ends in. -/
def folder (path : Path) : List String := path.components.dropLast.foldl Component.follow []

/-- A path below another one adds names to it, and nothing else. -/
def IsBelow (path directory : Path) : Prop :=
  ∃ names : List String, names ≠ [] ∧
    path.components = directory.components ++ names.map Component.name

/-- No piece of a path contains a slash. -/
def WellFormed (path : Path) : Prop := ∀ piece ∈ path.pieces, '/' ∉ piece.toList

/-- A piece that is the name of an entry. -/
def IsName (piece : String) : Prop := ¬ isIdle piece ∧ piece ≠ ".." ∧ '/' ∉ piece.toList

/-! ### Pieces and steps -/

theorem steps_append (first rest : List String) :
    steps (first ++ rest) = steps first ++ steps rest := List.filterMap_append

theorem steps_eq_nil (h : ∀ piece ∈ pieces, isIdle piece) : steps pieces = [] := by
  rw [steps, List.filterMap_eq_nil_iff]
  intro piece hmem
  rw [if_pos (h piece hmem)]

theorem steps_singleton (h : IsName name) : steps [name] = [.name name] := by
  obtain ⟨hidle, hup, -⟩ := h
  simp [steps, hidle, hup]

/-- A step goes up, or to a name. -/
theorem eq_parent_or_name_of_mem_steps {step : Component} (h : step ∈ steps pieces) :
    step = .parent ∨ ∃ name ∈ pieces, step = .name name ∧ ¬ isIdle name ∧ name ≠ ".." := by
  obtain ⟨piece, hmem, hstep⟩ := List.mem_filterMap.mp h
  by_cases hidle : isIdle piece
  · rw [if_pos hidle] at hstep
    cases hstep
  · rw [if_neg hidle] at hstep
    by_cases hup : piece = ".."
    · rw [if_pos hup] at hstep
      exact .inl (Option.some.inj hstep).symm
    · rw [if_neg hup] at hstep
      exact .inr ⟨piece, hmem, (Option.some.inj hstep).symm, hidle, hup⟩

/-- What is trimmed off leads nowhere. -/
theorem exists_trimEnd_append (pieces : List String) :
    ∃ idle, pieces = trimEnd pieces ++ idle ∧ ∀ piece ∈ idle, isIdle piece := by
  refine ⟨(pieces.reverse.takeWhile isIdle).reverse, ?_, ?_⟩
  · rw [trimEnd, ← List.reverse_append, List.takeWhile_append_dropWhile, List.reverse_reverse]
  · intro piece hmem
    exact List.mem_takeWhile_imp (List.mem_reverse.mp hmem)

theorem steps_trimEnd (pieces : List String) : steps (trimEnd pieces) = steps pieces := by
  obtain ⟨idle, hpieces, hidle⟩ := exists_trimEnd_append pieces
  have hsteps := congrArg steps hpieces
  rw [steps_append, steps_eq_nil hidle, List.append_nil] at hsteps
  exact hsteps.symm

theorem steps_dropWhile (pieces : List String) :
    steps (pieces.dropWhile isIdle) = steps pieces := by
  have hidle : ∀ piece ∈ pieces.takeWhile isIdle, isIdle piece := fun piece hmem =>
    List.mem_takeWhile_imp hmem
  have hsteps := steps_append (pieces.takeWhile isIdle) (pieces.dropWhile isIdle)
  rw [List.takeWhile_append_dropWhile, steps_eq_nil hidle, List.nil_append] at hsteps
  exact hsteps.symm

theorem steps_cons_of_not_isIdle {piece : String} (h : ¬ isIdle piece) (pieces : List String) :
    ∃ step, steps (piece :: pieces) = step :: steps pieces := by
  by_cases hup : piece = ".."
  · subst hup
    exact ⟨.parent, rfl⟩
  · exact ⟨.name piece, by simp [steps, h, hup]⟩

theorem steps_dropSteps (count : Nat) (pieces : List String) :
    steps (dropSteps count pieces) = (steps pieces).drop count := by
  fun_induction dropSteps count pieces with
  | case1 pieces => rw [steps_trimEnd, steps_dropWhile, List.drop_zero]
  | case2 count => rfl
  | case3 count piece pieces hidle ih =>
    rw [ih, steps, steps, List.filterMap_cons_none (by rw [if_pos hidle])]
  | case4 count piece pieces hidle ih =>
    obtain ⟨step, hsteps⟩ := steps_cons_of_not_isIdle hidle pieces
    rw [ih, hsteps, List.drop_succ_cons]

/-! ### Joining -/

theorem steps_dropClosingSlash (pieces : List String) :
    steps (dropClosingSlash pieces) = steps pieces := by
  unfold dropClosingSlash
  split
  · next h =>
    obtain ⟨front, rfl⟩ := List.getLast?_eq_some_iff.mp h
    have hclosing : steps [""] = [] := rfl
    rw [List.dropLast_concat, steps_append, hclosing, List.append_nil]
  · rfl

theorem mem_of_mem_dropClosingSlash {piece : String} (h : piece ∈ dropClosingSlash pieces) :
    piece ∈ pieces := by
  unfold dropClosingSlash at h
  split at h
  · exact (List.dropLast_sublist _).subset h
  · exact h

theorem steps_continuation (path : Path) : steps path.continuation = steps path.pieces := by
  obtain ⟨start, pieces⟩ := path
  unfold continuation
  split
  · next h => simp_all [steps, isIdle]
  · next h => simp_all [steps, isIdle]
  · next h => simp_all

theorem components_of_text_eq (h : path.text = "") : path.components = [] := by
  obtain ⟨start, pieces⟩ := path
  cases start with
  | root => simp [text] at h
  | dot => cases pieces <;> simp [text] at h
  | piece =>
    rw [components, lead, List.nil_append]
    apply steps_eq_nil
    cases pieces with
    | nil => simp
    | cons piece pieces => cases pieces <;> simp_all [text, isIdle]

theorem text_ne_of_isAbsolute (h : path.isAbsolute) : path.text ≠ "" := by
  obtain ⟨start, pieces⟩ := path
  obtain rfl : start = .root := by simpa [isAbsolute] using h
  simp [text]

theorem components_ne_nil_of_isAbsolute (h : path.isAbsolute) : path.components ≠ [] := by
  obtain ⟨start, pieces⟩ := path
  obtain rfl : start = .root := by simpa [isAbsolute] using h
  exact List.cons_ne_nil _ _

/-- A path that is joined to another adds its steps. -/
theorem components_join (htext : path.text ≠ "") (hnext : next.isAbsolute = false) :
    (path.join next).components = path.components ++ steps next.pieces := by
  simp only [join, hnext, htext, decide_false, Bool.or_false, Bool.false_eq_true, if_false]
  rw [components, steps_append, steps_dropClosingSlash, steps_continuation, ← List.append_assoc,
    components]

/-- An absolute path stands alone. -/
theorem join_of_isAbsolute (hnext : next.isAbsolute) : path.join next = next := by
  simp [join, hnext]

theorem wellFormed_ofText (text : String) : (ofText text).WellFormed := by
  have hparts : ∀ piece ∈ (Text.splitOn '/' text.toList).map String.ofList,
      '/' ∉ piece.toList := by
    intro piece hmem
    obtain ⟨part, hpart, rfl⟩ := List.mem_map.mp hmem
    rw [String.toList_ofList]
    exact Text.not_mem_of_mem_splitOn hpart
  unfold ofText
  split
  · next h => exact fun piece hmem => hparts piece (h ▸ List.mem_cons_of_mem _ hmem)
  · next h => exact fun piece hmem => hparts piece (h ▸ List.mem_cons_of_mem _ hmem)
  · exact hparts

theorem mem_pieces_join {piece : String} (h : piece ∈ (path.join next).pieces) :
    piece ∈ path.pieces ∨ piece ∈ next.pieces ∨ isIdle piece := by
  unfold join at h
  split at h
  · exact .inr (.inl h)
  · rcases List.mem_append.mp h with h | h
    · exact .inl (mem_of_mem_dropClosingSlash h)
    · unfold continuation at h
      split at h
      · rcases List.mem_cons.mp h with rfl | h
        · exact .inr (.inr rfl)
        · exact .inr (.inl h)
      · exact .inr (.inr (by simp_all [isIdle]))
      · exact .inr (.inl h)

theorem WellFormed.join (hpath : path.WellFormed) (hnext : next.WellFormed) :
    (path.join next).WellFormed := by
  intro piece hmem
  rcases mem_pieces_join hmem with h | h | h
  · exact hpath piece h
  · exact hnext piece h
  · rcases Bool.or_eq_true_iff.mp h with h | h <;> simp_all

theorem WellFormed.joinText (hpath : path.WellFormed) (name : String) :
    (path.joinText name).WellFormed := hpath.join (wellFormed_ofText name)

theorem isAbsolute_join (h : path.isAbsolute) (next : Path) : (path.join next).isAbsolute := by
  unfold join
  split
  · next hnext =>
    rcases Bool.or_eq_true_iff.mp hnext with hnext | htext
    · exact hnext
    · exact absurd (of_decide_eq_true htext) (text_ne_of_isAbsolute h)
  · exact h

theorem isAbsolute_absoluteIn (h : directory.isAbsolute) (path : Path) :
    (path.absoluteIn directory).isAbsolute := by
  unfold absoluteIn
  split
  · assumption
  · exact isAbsolute_join h path

theorem ofText_of_isName (h : IsName name) : ofText name = ⟨.piece, [name]⟩ := by
  obtain ⟨hidle, -, hslash⟩ := h
  have hparts : Text.splitOn '/' name.toList = [name.toList] := by
    have hjoined := Text.splitOn_join (List.cons_ne_nil name.toList [])
      (List.forall_mem_singleton.mpr hslash)
    simpa [Text.join_eq_intercalate] using hjoined
  simp only [isIdle, Bool.or_eq_true, decide_eq_true_eq, not_or] at hidle
  unfold ofText
  rw [hparts]
  split <;> simp_all

/-- A name that is joined to a path is added to its components. -/
theorem components_joinText (h : IsName name) (path : Path) :
    (path.joinText name).components = path.components ++ [.name name] := by
  rw [joinText, ofText_of_isName h]
  by_cases htext : path.text = ""
  · have hjoin : path.join ⟨.piece, [name]⟩ = ⟨.piece, [name]⟩ := by simp [join, htext]
    rw [hjoin, components_of_text_eq htext, components, steps_singleton h]
    rfl
  · rw [components_join htext rfl, steps_singleton h]

theorem place_joinText (h : IsName name) : (path.joinText name).place = path.place ++ [name] := by
  rw [place, components_joinText h, List.foldl_append]
  rfl

/-! ### The last component -/

theorem fileName?_eq_some_iff :
    path.fileName? = some name ↔ ∃ front, path.components = front ++ [.name name] := by
  unfold fileName?
  rw [← List.getLast?_eq_some_iff]
  split <;> simp_all

theorem name_not_mem_lead (start : PathStart) (name : String) : .name name ∉ lead start := by
  cases start <;> simp [lead]

/-- What is left by trimming ends in a step. -/
theorem exists_steps_of_trimEnd_ne_nil (h : trimEnd pieces ≠ []) :
    ∃ step, steps pieces = steps (trimEnd pieces).dropLast ++ [step] := by
  obtain ⟨last, hlast⟩ := List.getLast?_isSome.mpr h |> Option.isSome_iff_exists.mp
  obtain ⟨front, hfront⟩ := List.getLast?_eq_some_iff.mp hlast
  have hidle : ¬ isIdle last := by
    have hhead := List.head?_dropWhile_not isIdle pieces.reverse
    rw [trimEnd, List.getLast?_reverse] at hlast
    simpa [hlast] using hhead
  obtain ⟨step, hstep⟩ := steps_cons_of_not_isIdle hidle []
  refine ⟨step, ?_⟩
  rw [← steps_trimEnd, hfront, List.dropLast_concat, steps_append, hstep]
  rfl

theorem components_parent? {front : List Component}
    (h : path.components = front ++ [.name name]) :
    ∃ parent, path.parent? = some parent ∧ parent.components = front := by
  unfold parent?
  split
  · next htrim =>
    have hlead : path.components = lead path.start := by
      rw [components, ← steps_trimEnd, htrim]
      exact List.append_nil _
    rw [hlead] at h
    exact absurd (by simp [h]) (name_not_mem_lead path.start name)
  · next piece pieces htrim =>
    obtain ⟨step, hsteps⟩ := exists_steps_of_trimEnd_ne_nil (by rw [htrim]; simp)
    refine ⟨_, rfl, ?_⟩
    rw [components, hsteps, ← List.append_assoc] at h
    rw [components, steps_trimEnd, ← htrim]
    exact (List.append_inj' h rfl).1

theorem place_eq_folder_append (h : path.fileName? = some name) :
    path.place = path.folder ++ [name] := by
  obtain ⟨front, hfront⟩ := fileName?_eq_some_iff.mp h
  rw [place, folder, hfront, List.dropLast_concat, List.foldl_append]
  rfl

theorem mem_pieces_of_fileName? (h : path.fileName? = some name) : name ∈ path.pieces := by
  obtain ⟨front, hfront⟩ := fileName?_eq_some_iff.mp h
  have hmem : Component.name name ∈ path.components := by simp [hfront]
  rcases List.mem_append.mp hmem with hlead | hstep
  · exact absurd hlead (name_not_mem_lead path.start name)
  · rcases eq_parent_or_name_of_mem_steps hstep with h | ⟨other, hother, heq, -⟩
    · cases h
    · cases heq
      exact hother

/-- A file with another name is in the same directory. -/
theorem place_withFileName {old : String} (hold : path.fileName? = some old) (hname : IsName name) :
    (path.withFileName name).place = path.folder ++ [name] := by
  obtain ⟨front, hfront⟩ := fileName?_eq_some_iff.mp hold
  obtain ⟨parent, hparent, hcomponents⟩ := components_parent? hfront
  simp only [withFileName, hold, hparent, Option.getD_some]
  rw [place_joinText hname, place, folder, hcomponents, hfront, List.dropLast_concat]

/-! ### Paths below others -/

theorem place_append {names : List String}
    (h : path.components = directory.components ++ names.map Component.name) :
    path.place = directory.place ++ names := by
  rw [place, h, List.foldl_append, ← place]
  generalize directory.place = location
  clear h
  induction names generalizing location with
  | nil => exact (List.append_nil location).symm
  | cons name names ih =>
    rw [List.map_cons, List.foldl_cons, ih, Component.follow, List.append_assoc]
    rfl

theorem place_of_isBelow (h : path.IsBelow directory) :
    ∃ names, names ≠ [] ∧ path.place = directory.place ++ names := by
  obtain ⟨names, hne, hcomponents⟩ := h
  exact ⟨names, hne, place_append hcomponents⟩

theorem length_lead_le (start : PathStart) : (lead start).length ≤ 1 := by
  cases start <;> decide

theorem drop_components {count : Nat} (h : (lead path.start).length ≤ count) :
    path.components.drop count =
      (steps path.pieces).drop (count - (lead path.start).length) := by
  rw [components, List.drop_append, List.drop_eq_nil_of_le h, List.nil_append]

/-- The path below a base has the components that the base has not. -/
theorem relativeTo_of_isPrefix (hbase : base.components ≠ [])
    (hstart : base.components <+: path.components) :
    (path.relativeTo base).isAbsolute = false ∧
      steps (path.relativeTo base).pieces = path.components.drop base.components.length := by
  have hlength : (lead path.start).length ≤ base.components.length :=
    (length_lead_le _).trans (List.length_pos_iff.mpr hbase)
  have hrelative : path.relativeTo base = ⟨.piece,
      dropSteps (base.components.length - (lead path.start).length) path.pieces⟩ := by
    unfold relativeTo below?
    rw [if_pos (List.isPrefixOf_iff_prefix.mpr hstart), if_neg hbase]
    rfl
  rw [hrelative]
  refine ⟨rfl, ?_⟩
  rw [drop_components hlength]
  exact steps_dropSteps _ _

theorem relativeTo_of_not_isPrefix (h : ¬ base.components <+: path.components) :
    path.relativeTo base = path := by
  unfold relativeTo below?
  rw [if_neg (by simpa using h)]
  rfl

end Path

end SfcWeave
