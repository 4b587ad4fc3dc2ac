import SfcWeave.Proofs.Files.Writing

/-!
# Plain spellings of paths

Paths are compared by components, so that `src/.` and `src//` are other spellings of `src`. The
plain spelling has no piece that leads nowhere (`Path.plain`). It is the same for all spellings of a
path (`Path.plain_eq_plain`), and a path below a root that is spelled plainly has its plain spelling
(`Path.not_isIdle_foldl_joinText`).
-/

namespace SfcWeave

namespace Path

variable {path root a b : Path} {pieces names folders : List String} {name : String}

/-- A path without the pieces that lead nowhere. -/
def plain (path : Path) : Path := ⟨path.start, path.pieces.filter fun piece => !isIdle piece⟩

/-- The piece that stands for a step. -/
def spell : Component → String
  | .root => ""
  | .current => "."
  | .parent => ".."
  | .name name => name

theorem map_spell_steps (pieces : List String) :
    (steps pieces).map spell = pieces.filter fun piece => !isIdle piece := by
  induction pieces with
  | nil => rfl
  | cons piece pieces ih =>
    rw [steps] at ih ⊢
    by_cases hidle : isIdle piece
    · simp [hidle, ih]
    · by_cases hup : piece = ".."
      · subst hup
        simpa [spell, isIdle] using ih
      · simp [hidle, hup, ih, spell]

/-- Where a path starts is told by its first component: steps go up, or to a name. -/
theorem eq_of_lead_append {start other : PathStart} {rest : List String}
    (h : lead start ++ steps pieces = lead other ++ steps rest) :
    start = other ∧ steps pieces = steps rest := by
  have hstep : ∀ pieces, .root ∉ steps pieces ∧ .current ∉ steps pieces := by
    intro pieces
    constructor <;> intro hmem <;>
      rcases eq_parent_or_name_of_mem_steps hmem with h | ⟨name, -, h, -⟩ <;> cases h
  have hleft := hstep pieces
  have hright := hstep rest
  cases start <;> cases other <;> simp only [lead, List.nil_append, List.singleton_append] at h <;>
    grind

/-- The plain spelling depends on the components alone. -/
theorem plain_eq_plain (h : a.components = b.components) : a.plain = b.plain := by
  obtain ⟨hstart, hsteps⟩ := eq_of_lead_append h
  rw [plain, plain, hstart, ← map_spell_steps, hsteps, map_spell_steps]

theorem plain_eq_self (h : ∀ piece ∈ path.pieces, ¬ isIdle piece) : path.plain = path := by
  rw [plain, List.filter_eq_self.mpr (by simpa using h)]

theorem place_eq_place (h : a.components = b.components) : a.place = b.place := by
  rw [place, h, place]

theorem components_foldl_joinText (h : ∀ name ∈ names, IsName name) (path : Path) :
    (names.foldl joinText path).components = path.components ++ names.map .name := by
  induction names generalizing path with
  | nil => exact (List.append_nil _).symm
  | cons name names ih =>
    obtain ⟨hname, hrest⟩ := List.forall_mem_cons.mp h
    rw [List.foldl_cons, ih hrest, components_joinText hname, List.append_assoc]
    rfl

theorem not_isIdle_joinText (hroot : ∀ piece ∈ dropClosingSlash root.pieces, ¬ isIdle piece)
    (hname : IsName name) : ∀ piece ∈ (root.joinText name).pieces, ¬ isIdle piece := by
  intro piece hpiece
  rw [pieces_joinText hname] at hpiece
  rcases List.mem_append.mp hpiece with h | h
  · split at h
    · cases h
    · exact hroot piece h
  · rw [List.mem_singleton.mp h]
    exact hname.1

/-- Below a root that is spelled plainly, but for a closing slash, all is spelled plainly. -/
theorem not_isIdle_foldl_joinText (hroot : ∀ piece ∈ dropClosingSlash root.pieces, ¬ isIdle piece)
    (hnames : ∀ piece ∈ folders ++ [name], IsName piece) :
    ∀ piece ∈ ((folders ++ [name]).foldl joinText root).pieces, ¬ isIdle piece := by
  induction folders generalizing root with
  | nil => exact not_isIdle_joinText hroot (hnames name (by simp))
  | cons folder folders ih =>
    obtain ⟨hfolder, hrest⟩ := List.forall_mem_cons.mp hnames
    apply ih _ hrest
    intro piece hpiece
    exact not_isIdle_joinText hroot hfolder piece (mem_of_mem_dropClosingSlash hpiece)

end Path

end SfcWeave
