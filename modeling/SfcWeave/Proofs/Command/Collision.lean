import Mathlib.Data.List.Nodup
import SfcWeave.Proofs.Command.Delivery

/-!
# Results that meet

Two files of a command meet when their results are written at the same place. Then the later result
replaces the earlier one, although both files are reported as written. Which files meet is known
beforehand:

    collide_sibling_iff : a.folder = b.folder and equal stems
    collide_outDir_iff  : the same components, for files below the workspace

Among the components that are found in a directory these are a file that is named by the ending of
components alone and one that has the ending twice (`Path.stem_eq_stem_iff`). Where no two files
meet, every file that is reported as written holds its own result in the end, in whatever order the
files are woven.
-/

namespace SfcWeave

open FileTree

variable {σ : Type} {job : Job} {parse : Script.Parser} {toolchain : Toolchain σ}
  {start : FileTree → Except String σ} {a b path : Path} {name : String}

namespace Job

/-- The results of two files go to the same place. -/
def Collide (job : Job) (a b : Path) : Prop :=
  ∃ first second, job.target? a = some first ∧ job.target? b = some second ∧
    first.place = second.place

theorem Collide.symm (h : job.Collide a b) : job.Collide b a := by
  obtain ⟨first, second, ha, hb, hplace⟩ := h
  exact ⟨second, first, hb, ha, hplace.symm⟩

/-! ### Next to the sources -/

theorem isName_append_wovenSuffix {front : String} (h : '/' ∉ front.toList) :
    Path.IsName (front ++ wovenSuffix) := by
  have hlength : 10 ≤ (front ++ wovenSuffix).toList.length := by
    rw [String.toList_append, List.length_append]
    exact Nat.le_add_left _ _
  have hne : ∀ short : String, short.toList.length < 10 → front ++ wovenSuffix ≠ short := by
    rintro short hshort rfl
    omega
  refine ⟨?_, hne ".." (by decide), ?_⟩
  · simp [Path.isIdle, hne "" (by decide), hne "." (by decide)]
  · rw [String.toList_append, List.mem_append, not_or]
    exact ⟨h, by decide⟩

/-- The result of a file is in the directory of the file, by the stem of its name. -/
theorem place_siblingOf (hname : path.fileName? = some name) (hpath : path.WellFormed) :
    (siblingOf path).place = path.folder ++ [Path.stem name ++ wovenSuffix] := by
  have hslash : '/' ∉ (Path.stem name).toList := fun hmem =>
    hpath name (Path.mem_pieces_of_fileName? hname) ((Path.stem_isPrefix name).subset hmem)
  rw [siblingOf, hname]
  exact Path.place_withFileName hname (isName_append_wovenSuffix hslash)

/-- Next to the sources, files of one directory with one stem meet. -/
theorem collide_sibling_iff (hdestination : job.destination = .sibling)
    (ha : a.WellFormed) (hb : b.WellFormed) {other : String} (hname : a.fileName? = some name)
    (hother : b.fileName? = some other) :
    job.Collide a b ↔ a.folder = b.folder ∧ Path.stem name = Path.stem other := by
  have hplaces : job.Collide a b ↔ (siblingOf a).place = (siblingOf b).place := by
    simp [Collide, target?, hdestination]
  rw [hplaces, place_siblingOf hname ha, place_siblingOf hother hb]
  constructor
  · intro h
    obtain ⟨hfolder, hlast⟩ := List.append_inj' h rfl
    exact ⟨hfolder, (String.append_left_inj wovenSuffix).mp (List.cons.inj hlast).1⟩
  · rintro ⟨hfolder, hstem⟩
    rw [hfolder, hstem]

/-- Two components that meet are one file under two spellings, unless one of them is named by the
ending of components alone. -/
theorem place_eq_of_collide (hdestination : job.destination = .sibling)
    (ha : a.WellFormed) (hb : b.WellFormed) {other : String} (hname : a.fileName? = some name)
    (hother : b.fileName? = some other) (hfirst : isComponentName name)
    (hsecond : isComponentName other) (h : job.Collide a b) :
    a.place = b.place ∨ componentSuffix ∈ [name, other] := by
  obtain ⟨hfolder, hstem⟩ := (collide_sibling_iff hdestination ha hb hname hother).mp h
  rcases (Path.stem_eq_stem_iff hfirst hsecond).mp hstem with rfl | ⟨rfl, -⟩ | ⟨-, rfl⟩
  · rw [Path.place_eq_folder_append hname, Path.place_eq_folder_append hother, hfolder]
    exact .inl rfl
  · exact .inr List.mem_cons_self
  · exact .inr (List.mem_cons_of_mem _ List.mem_cons_self)

/-! ### Below a directory -/

theorem place_target_of_isBelow {directory target : Path}
    (hdestination : job.destination = .outDir directory) (hworkspace : job.workspace.isAbsolute)
    (hdirectory : directory.isAbsolute) (htarget : job.target? path = some target)
    {names : List String}
    (hnames : path.components = job.workspace.components ++ names.map Component.name) :
    target.place = directory.place ++ names := by
  have hcomponents := components_target_of_isPrefix hdestination hworkspace hdirectory htarget
    (hnames ▸ List.prefix_append _ _)
  rw [hnames, List.drop_left] at hcomponents
  exact Path.place_append hcomponents

/-- Below a directory, files of the workspace do not meet. -/
theorem collide_outDir_iff {directory : Path} (hdestination : job.destination = .outDir directory)
    (hworkspace : job.workspace.isAbsolute) (hdirectory : directory.isAbsolute)
    (ha : a.IsBelow job.workspace) (hb : b.IsBelow job.workspace) :
    job.Collide a b ↔ a.components = b.components := by
  obtain ⟨names, -, hnames⟩ := ha
  obtain ⟨others, -, hothers⟩ := hb
  have hsome : ∀ path, job.target? path = some (directory.join (path.relativeTo job.workspace)) :=
    fun path => by simp [target?, hdestination]
  constructor
  · rintro ⟨first, second, hfirst, hsecond, hplace⟩
    rw [place_target_of_isBelow hdestination hworkspace hdirectory hfirst hnames,
      place_target_of_isBelow hdestination hworkspace hdirectory hsecond hothers] at hplace
    rw [hnames, hothers, List.append_cancel_left hplace]
  · intro hsame
    refine ⟨_, _, hsome a, hsome b, ?_⟩
    rw [place_target_of_isBelow hdestination hworkspace hdirectory (hsome a) hnames,
      place_target_of_isBelow hdestination hworkspace hdirectory (hsome b) (hsame ▸ hnames)]

/-! ### What is in the targets in the end -/

/-- Where no two files meet, what is written for a file stays until the end. -/
theorem DeliversAll.kept {paths : List Path} {tree after : FileTree} {reports : List Report}
    (h : job.DeliversAll parse toolchain paths tree after reports)
    (hapart : paths.Pairwise fun a b => ¬ job.Collide a b) {report : Report}
    (hreport : report ∈ reports) {target : Path} (hwritten : report.outcome = .written target) :
    ∃ source code, job.WeavesTo parse toolchain report.path source code ∧
      after.readText target = .ok code ∧
      ∀ initial, tree.readText report.path = .ok initial →
        (∀ other ∈ paths, other ≠ report.path → ¬ job.IsTargetOf other report.path.place) →
        source = initial := by
  -- the induction is on the files: the first one writes before all others and reads before them
  induction h with
  | nil => cases hreport
  | @cons path paths tree between after first reports hfirst hrest ih =>
    obtain ⟨hahead, hapart⟩ := List.pairwise_cons.mp hapart
    rcases List.mem_cons.mp hreport with rfl | hreport
    · obtain ⟨htarget, source, code, hread, hweaves, hcode⟩ := hfirst.written target hwritten
      obtain rfl := hfirst.reports
      refine ⟨source, code, hweaves, ?_, ?_⟩
      · apply readText_of_keeps hrest.keeps _ hcode
        rintro ⟨other, hother, second, hsecond, hplace⟩
        exact hahead other hother ⟨target, second, htarget, hsecond, hplace⟩
      · intro initial hinitial _
        exact Except.ok.inj (hread.symm.trans hinitial)
    · obtain ⟨source, code, hweaves, hcode, hsource⟩ := ih hapart hreport
      obtain ⟨hmem, before, done, hdelivers⟩ := hrest.exists_delivers hreport
      obtain ⟨htarget, -⟩ := hdelivers.written target hwritten
      refine ⟨source, code, hweaves, hcode, ?_⟩
      intro initial hinitial hfree
      -- the first file is another one, as it would meet itself otherwise
      have hne : path ≠ report.path := by
        rintro rfl
        exact hahead _ hmem ⟨target, target, htarget, htarget, rfl⟩
      have hbetween := readText_of_keeps hfirst.keeps (hfree path List.mem_cons_self hne) hinitial
      exact hsource initial hbetween fun other hother =>
        hfree other (List.mem_cons_of_mem _ hother)

/-- Two files that are discovered meet next to their sources exactly if they have one directory and
one stem; if they are components, they are then one file of the tree, or one is named `.vue`. Below
a directory, files of the workspace do not meet. If no two files meet, then what is reported as
written holds, in the end, what the file of the report is woven to, in whatever order the files are
woven; and what is woven has been there from the start, unless it is the target of another file. -/
theorem weaveFiles_kept {tree : FileTree} {ignored : String → Bool} {roots files : List Path}
    (hroots : ∀ root ∈ roots, root.WellFormed)
    (hfound : discover tree job.workspace ignored roots = .ok files) :
    (job.destination = .sibling → ∀ a ∈ files, ∀ b ∈ files, ∃ name other,
      a.fileName? = some name ∧ b.fileName? = some other ∧
      (job.Collide a b ↔ a.folder = b.folder ∧ Path.stem name = Path.stem other) ∧
      (isComponentName name → isComponentName other → job.Collide a b →
        a.place = b.place ∨ componentSuffix ∈ [name, other])) ∧
    (∀ directory, job.destination = .outDir directory → directory.isAbsolute →
      job.workspace.isAbsolute → ∀ a ∈ files, ∀ b ∈ files,
      a.IsBelow job.workspace → b.IsBelow job.workspace → (job.Collide a b ↔ a = b)) ∧
    ((files.Pairwise fun a b => ¬ job.Collide a b) → ∀ (order : List Path) (effects after : Effects)
      (reports : List Report), order.Perm files → effects.tree = tree →
      job.weaveFiles parse toolchain start order effects = (reports, after) →
      ∀ report ∈ reports, ∀ target, report.outcome = .written target →
        ∃ source code, job.WeavesTo parse toolchain report.path source code ∧
          after.tree.readText target = .ok code ∧
          ∀ initial, tree.readText report.path = .ok initial →
            (∀ other ∈ files, other ≠ report.path → ¬ job.IsTargetOf other report.path.place) →
            source = initial) := by
  refine ⟨?_, ?_, ?_⟩
  · intro hdestination a ha b hb
    have hformed : ∀ path ∈ files, path.WellFormed := fun path hmem =>
      of_discover Path.WellFormed (fun _ name hpath => hpath.joinText name) hroots hfound hmem
    obtain ⟨name, hname⟩ := exists_fileName_of_discover hfound ha
    obtain ⟨other, hother⟩ := exists_fileName_of_discover hfound hb
    exact ⟨name, other, hname, hother,
      collide_sibling_iff hdestination (hformed a ha) (hformed b hb) hname hother,
      place_eq_of_collide hdestination (hformed a ha) (hformed b hb) hname hother⟩
  · intro directory hdestination hdirectory hworkspace a ha b hb hbelow hother
    rw [collide_outDir_iff hdestination hworkspace hdirectory hbelow hother]
    constructor
    · intro hsame
      have hnodup : (files.map Path.components).Nodup :=
        List.pairwise_map.mpr (pairwise_of_discover hfound)
      exact List.inj_on_of_nodup_map hnodup ha hb hsame
    · rintro rfl
      rfl
  · rintro hapart order effects after reports hperm rfl hrun report hreport target hwritten
    have hall := deliversAll_weaveFiles hrun
    have horder := (hperm.pairwise_iff fun h hcollide => h (Collide.symm hcollide)).mpr hapart
    obtain ⟨source, code, hweaves, hcode, hsource⟩ := hall.kept horder hreport hwritten
    refine ⟨source, code, hweaves, hcode, ?_⟩
    intro initial hinitial hfree
    exact hsource initial hinitial fun other hother => hfree other (hperm.mem_iff.mp hother)

/-- A tree with two components at its root. -/
def siblingTree (first second : String) : FileTree :=
  ⟨[([first], .file (.text (componentSource "f"))),
    ([second], .file (.text (componentSource "g")))]⟩

def siblingJob : Job where
  workspace := .ofText "/"

/-- Weaves files of the sample. -/
def siblingRun (tree : FileTree) (files : List String) : List Report × Effects :=
  siblingJob.weaveFiles Script.parse (constantToolchain "b()") (fun _ => .ok ())
    (files.map Path.ofText) { tree }

theorem discover_siblingTree {first second : String} {paths : List Path}
    (h : (filesOfRoot (siblingTree first second) siblingJob.workspace (fun _ => false)
      (.ofText "/")).toOption = some paths)
    (horder : paths.Pairwise fun a b => a.le b)
    (hapart : paths.Pairwise fun a b => a.components ≠ b.components) :
    discover (siblingTree first second) siblingJob.workspace (fun _ => false) [.ofText "/"] =
      .ok paths :=
  discover_singleton (Except.mem_toOption_iff.mp h) horder hapart

theorem weaveFiles_kept_reversed :
    discover (siblingTree "A.vue" "B.vue") siblingJob.workspace (fun _ => false) [.ofText "/"] =
      .ok [.ofText "/A.vue", .ofText "/B.vue"] ∧
    (siblingRun (siblingTree "A.vue" "B.vue") ["/B.vue", "/A.vue"]).1 =
      [⟨.ofText "/B.vue", .written (.ofText "/B.typed.vue")⟩,
        ⟨.ofText "/A.vue", .written (.ofText "/A.typed.vue")⟩] ∧
    ∃ code, siblingJob.WeavesTo Script.parse (constantToolchain "b()") (.ofText "/A.vue")
        (componentSource "f") code ∧
      (siblingRun (siblingTree "A.vue" "B.vue") ["/B.vue", "/A.vue"]).2.tree.readText
        (.ofText "/A.typed.vue") = .ok code := by
  have hfound : discover (siblingTree "A.vue" "B.vue") siblingJob.workspace (fun _ => false)
      [.ofText "/"] = .ok [.ofText "/A.vue", .ofText "/B.vue"] :=
    discover_siblingTree (by decide +kernel) (by decide +kernel) (by decide +kernel)
  have hreports : (siblingRun (siblingTree "A.vue" "B.vue") ["/B.vue", "/A.vue"]).1 =
      [⟨.ofText "/B.vue", .written (.ofText "/B.typed.vue")⟩,
        ⟨.ofText "/A.vue", .written (.ofText "/A.typed.vue")⟩] := by decide +kernel
  rcases hrun : siblingRun (siblingTree "A.vue" "B.vue") ["/B.vue", "/A.vue"]
    with ⟨reports, after⟩
  rw [hrun] at hreports
  obtain rfl := hreports
  obtain ⟨hmeet, -, hkept⟩ := weaveFiles_kept
    (List.forall_mem_singleton.mpr (Path.wellFormed_ofText "/")) hfound
  have hapart : [Path.ofText "/A.vue", .ofText "/B.vue"].Pairwise
      fun a b => ¬ siblingJob.Collide a b := by
    rw [List.pairwise_pair]
    intro hcollide
    obtain ⟨name, other, hname, hother, hiff, -⟩ := hmeet rfl _ List.mem_cons_self _
      (List.mem_cons_of_mem _ List.mem_cons_self)
    obtain rfl : "A.vue" = name := Option.some.inj (Eq.trans (by decide +kernel) hname)
    obtain rfl : "B.vue" = other := Option.some.inj (Eq.trans (by decide +kernel) hother)
    exact absurd (hiff.mp hcollide).2 (by decide)
  obtain ⟨source, code, hweaves, hcode, hsource⟩ := hkept hapart _ _ _ _ (.swap _ _ _) rfl hrun
    _ (List.mem_cons_of_mem _ List.mem_cons_self) _ rfl
  have hinitial : (siblingTree "A.vue" "B.vue").readText (.ofText "/A.vue") =
      .ok (componentSource "f") := Except.mem_toOption_iff.mp (by decide +kernel)
  have hfree : ∀ other ∈ [Path.ofText "/A.vue", .ofText "/B.vue"], other ≠ .ofText "/A.vue" →
      ¬ siblingJob.IsTargetOf other (Path.ofText "/A.vue").place := by
    rintro other hother hne ⟨target, htarget, hplace⟩
    obtain rfl := List.mem_singleton.mp ((List.mem_cons.mp hother).resolve_left hne)
    have hB : siblingJob.target? (.ofText "/B.vue") = some (.ofText "/B.typed.vue") := by
      decide +kernel
    obtain rfl := Option.some.inj (hB.symm.trans htarget)
    exact absurd hplace (by decide +kernel)
  obtain rfl := hsource (componentSource "f") hinitial hfree
  exact ⟨hfound, rfl, code, hweaves, hcode⟩

/-- Both files are reported as written, and only the result of the later one is there. -/
theorem weaveFiles_collide :
    discover (siblingTree ".vue" ".vue.vue") siblingJob.workspace (fun _ => false)
      [.ofText "/"] = .ok [.ofText "/.vue", .ofText "/.vue.vue"] ∧
    (siblingTree ".vue" ".vue.vue").readText (.ofText "/.vue") = .ok (componentSource "f") ∧
    (siblingRun (siblingTree ".vue" ".vue.vue") ["/.vue", "/.vue.vue"]).1 =
      [⟨.ofText "/.vue", .written (.ofText "/.vue.typed.vue")⟩,
        ⟨.ofText "/.vue.vue", .written (.ofText "/.vue.typed.vue")⟩] ∧
    (siblingRun (siblingTree ".vue" ".vue.vue") ["/.vue", "/.vue.vue"]).2.tree.readText
      (.ofText "/.vue.typed.vue") = .ok (wovenSource "g") := by
  have hrun : ((siblingRun (siblingTree ".vue" ".vue.vue") ["/.vue", "/.vue.vue"]).1,
      ((siblingRun (siblingTree ".vue" ".vue.vue") ["/.vue", "/.vue.vue"]).2.tree.readText
        (.ofText "/.vue.typed.vue")).toOption) =
      ([⟨.ofText "/.vue", .written (.ofText "/.vue.typed.vue")⟩,
        ⟨.ofText "/.vue.vue", .written (.ofText "/.vue.typed.vue")⟩], some (wovenSource "g")) := by
    decide +kernel
  obtain ⟨hreports, hcode⟩ := Prod.mk.inj hrun
  exact ⟨discover_siblingTree (by decide +kernel) (by decide +kernel) (by decide +kernel),
    Except.mem_toOption_iff.mp (by decide +kernel), hreports, Except.mem_toOption_iff.mp hcode⟩

end Job

end SfcWeave
