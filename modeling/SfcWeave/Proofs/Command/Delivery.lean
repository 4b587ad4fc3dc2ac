import SfcWeave.Command.Pool
import SfcWeave.Proofs.Files.Discovery
import SfcWeave.Proofs.Weaving.Insertion
import SfcWeave.Script.Parser

/-!
# Where results go

What weaving a file does to the file tree is to write its result at its target, if it comes to
that (`Job.Delivers`); all other files stay. From one file it goes to all files of a command, which
a pool serves (`Job.delivers_weavePooled`).

With an output directory the target is what the path of the file has below the workspace, below
the directory. A path that is not below the workspace is taken as a whole, and an absolute one is
then its own target: the file is replaced by its result.
-/

namespace SfcWeave

open FileTree

variable {σ : Type} {job : Job} {parse : Script.Parser} {toolchain : Toolchain σ}
  {start : FileTree → Except String σ}

namespace Job

/-- The code is what a source at a path is woven to. -/
def WeavesTo (job : Job) (parse : Script.Parser) (toolchain : Toolchain σ) (path : Path)
    (source code : String) : Prop :=
  ∃ state woven next,
    (weave parse toolchain job.options path.text source).run.run { toolchain := state } =
      (.ok woven, next) ∧
    woven.injection.isInjected ∧ woven.code = code

/-- The place that the result of a file may be written at. -/
def IsTargetOf (job : Job) (path : Path) (location : Location) : Prop :=
  ∃ target, job.target? path = some target ∧ location = target.place

/-- What the report on a file says of the trees before and after: the target has been written with
what the file is woven to, and no other file has been changed. -/
structure Delivers (job : Job) (parse : Script.Parser) (toolchain : Toolchain σ) (path : Path)
    (tree after : FileTree) (report : Report) : Prop where
  reports : report.path = path
  keeps : Keeps (job.IsTargetOf path) tree after
  written : ∀ target, report.outcome = .written target →
    job.target? path = some target ∧ ∃ source code, tree.readText path = .ok source ∧
      job.WeavesTo parse toolchain path source code ∧ after.readText target = .ok code

/-- A report of another outcome says nothing of a tree that has not been changed. -/
theorem delivers_of_unwritten {path : Path} {tree : FileTree} {report : Report}
    (hpath : report.path = path) (hnone : ∀ target, report.outcome ≠ .written target) :
    job.Delivers parse toolchain path tree tree report where
  reports := hpath
  keeps := .refl _ tree
  written target h := absurd h (hnone target)

/-- Delivering a result writes its target. -/
theorem delivers_deliver {path : Path} {source code : String} {effects after : Effects}
    {outcome : Outcome} (hread : effects.tree.readText path = .ok source)
    (hweaves : job.WeavesTo parse toolchain path source code)
    (h : job.deliver path code effects = (outcome, after)) :
    job.Delivers parse toolchain path effects.tree after.tree ⟨path, outcome⟩ := by
  unfold deliver at h
  rcases htarget : job.target? path with _ | target
  · simp only [htarget] at h
    obtain ⟨rfl, rfl⟩ := Prod.mk.inj h
    exact delivers_of_unwritten rfl nofun
  · simp only [htarget, Effects.write] at h
    rcases hwrite : (FileAction.write target code).run effects.tree with ⟨result, tree⟩
    obtain ⟨hkeeps, hwritten⟩ := FileAction.write_spec hwrite
    have hmono : Keeps (job.IsTargetOf path) effects.tree tree :=
      hkeeps.mono fun location hlocation => ⟨target, htarget, hlocation⟩
    rw [hwrite] at h
    cases result with
    | error error =>
      obtain ⟨rfl, rfl⟩ := Prod.mk.inj h
      exact ⟨rfl, hmono, nofun⟩
    | ok done =>
      obtain ⟨rfl, rfl⟩ := Prod.mk.inj h
      refine ⟨rfl, hmono, ?_⟩
      intro other hother
      obtain rfl := Outcome.written.inj hother
      exact ⟨htarget, source, code, hread, hweaves, hwritten rfl⟩

theorem outcome_ofError_ne_written (source : String) (error : WeavingError) (target : Path) :
    Outcome.ofError source error ≠ .written target := nofun

theorem outcome_ofUninjected_ne_written (injection : Injection) (target : Path) :
    Outcome.ofUninjected injection ≠ .written target := by
  cases injection <;> nofun

theorem delivers_weaveFile {path : Path} {state next : σ} {effects after : Effects}
    {report : Report}
    (h : job.weaveFile parse toolchain path state effects = (report, next, after)) :
    job.Delivers parse toolchain path effects.tree after.tree report := by
  unfold weaveFile at h
  rcases hread : effects.tree.readText path with error | source
  · simp only [hread, Prod.mk.injEq] at h
    obtain ⟨rfl, -, rfl⟩ := h
    exact delivers_of_unwritten rfl nofun
  · simp only [hread] at h
    rcases hweave : (weave parse toolchain job.options path.text source).run
      { toolchain := state } with ⟨error | woven, session⟩
    · simp only [hweave, Prod.mk.injEq] at h
      obtain ⟨rfl, -, rfl⟩ := h
      exact delivers_of_unwritten rfl (outcome_ofError_ne_written source error)
    · simp only [hweave] at h
      by_cases hinjected : woven.injection.isInjected
      · simp only [hinjected, if_true] at h
        rcases hdeliver : job.deliver path woven.code (effects.warn session.warnings.reverse)
          with ⟨outcome, changed⟩
        simp only [hdeliver, Prod.mk.injEq] at h
        obtain ⟨rfl, -, rfl⟩ := h
        have hsame : (effects.warn session.warnings.reverse).tree.readText path = .ok source :=
          hread
        have hdelivers :=
          delivers_deliver hsame ⟨state, woven, session, hweave, hinjected, rfl⟩ hdeliver
        exact hdelivers
      · simp only [hinjected, Prod.mk.injEq, Bool.false_eq_true, if_false] at h
        obtain ⟨rfl, -, rfl⟩ := h
        exact delivers_of_unwritten rfl (outcome_ofUninjected_ne_written woven.injection)

/-! ### All files of a command -/

/-- What happens with a file: no toolchain can be had, or the file is woven with one. -/
theorem run_weavePooled (path : Path) (pool : Pool σ) (effects : Effects) :
    (job.weavePooled parse toolchain start path).run (pool, effects) =
      match pool.acquire fun () => start effects.tree with
      | (.error message, rest) => (.failure path message, rest, effects)
      | (.ok state, rest) =>
        let (report, next, after) := job.weaveFile parse toolchain path state effects
        (report, rest.giveBack next, after) := by
  rcases hacquire : pool.acquire fun () => start effects.tree with ⟨message | state, rest⟩ <;>
    simp only [weavePooled, StateT.run, hacquire]

theorem delivers_weavePooled {path : Path} {pool next : Pool σ} {effects after : Effects}
    {report : Report}
    (h : (job.weavePooled parse toolchain start path).run (pool, effects) =
      (report, next, after)) :
    job.Delivers parse toolchain path effects.tree after.tree report := by
  rw [run_weavePooled] at h
  rcases hacquire : pool.acquire fun () => start effects.tree with ⟨message | state, rest⟩
  · simp only [hacquire] at h
    obtain ⟨rfl, -, rfl⟩ := h
    exact delivers_of_unwritten rfl nofun
  · rcases hweave : job.weaveFile parse toolchain path state effects with ⟨own, last, done⟩
    simp only [hacquire, hweave] at h
    obtain ⟨rfl, -, rfl⟩ := h
    exact delivers_weaveFile hweave

theorem run_mapM_cons {state : Pool σ × Effects} {path : Path} {paths : List Path} :
    ((path :: paths).mapM (job.weavePooled parse toolchain start)).run state =
      let (report, next) := (job.weavePooled parse toolchain start path).run state
      let (reports, last) := (paths.mapM (job.weavePooled parse toolchain start)).run next
      (report :: reports, last) := by
  rw [List.mapM_cons]
  rfl

/-- A run over files, one after another: each report tells of the trees before and after. -/
inductive DeliversAll (job : Job) (parse : Script.Parser) (toolchain : Toolchain σ) :
    List Path → FileTree → FileTree → List Report → Prop where
  | nil {tree} : DeliversAll job parse toolchain [] tree tree []
  | cons {path paths tree between after report reports} :
      job.Delivers parse toolchain path tree between report →
      DeliversAll job parse toolchain paths between after reports →
      DeliversAll job parse toolchain (path :: paths) tree after (report :: reports)

theorem deliversAll_mapM {paths : List Path} {pool last : Pool σ} {effects after : Effects}
    {reports : List Report}
    (h : (paths.mapM (job.weavePooled parse toolchain start)).run (pool, effects) =
      (reports, last, after)) :
    job.DeliversAll parse toolchain paths effects.tree after.tree reports := by
  induction paths generalizing pool effects reports with
  | nil =>
    cases h
    exact .nil
  | cons path paths ih =>
    rw [run_mapM_cons] at h
    rcases hfirst : (job.weavePooled parse toolchain start path).run (pool, effects)
      with ⟨report, next, between⟩
    rcases hrest : (paths.mapM (job.weavePooled parse toolchain start)).run (next, between)
      with ⟨others, final⟩
    simp only [hfirst, hrest] at h
    obtain ⟨rfl, rfl⟩ := h
    exact .cons (delivers_weavePooled hfirst) (ih hrest)

/-- Weaving the files of a command delivers one result after another. -/
theorem deliversAll_weaveFiles {paths : List Path} {effects after : Effects}
    {reports : List Report}
    (h : job.weaveFiles parse toolchain start paths effects = (reports, after)) :
    job.DeliversAll parse toolchain paths effects.tree after.tree reports := by
  unfold weaveFiles at h
  rcases hrun : (paths.mapM (job.weavePooled parse toolchain start)).run ({}, effects)
    with ⟨others, last, final⟩
  simp only [hrun, Prod.mk.injEq] at h
  obtain ⟨rfl, rfl⟩ := h
  exact deliversAll_mapM hrun

namespace DeliversAll

variable {paths : List Path} {tree after : FileTree} {reports : List Report}

/-- Files change at targets only. -/
theorem keeps (h : job.DeliversAll parse toolchain paths tree after reports) :
    Keeps (fun location => ∃ path ∈ paths, job.IsTargetOf path location) tree after := by
  induction h with
  | nil => exact .refl _ _
  | cons hfirst _ ih =>
    refine Keeps.trans (hfirst.keeps.mono ?_) (ih.mono ?_)
    · intro location hlocation
      exact ⟨_, List.mem_cons_self, hlocation⟩
    · rintro location ⟨path, hmem, hlocation⟩
      exact ⟨path, List.mem_cons_of_mem _ hmem, hlocation⟩

/-- A report tells of one of the files. -/
theorem exists_delivers (h : job.DeliversAll parse toolchain paths tree after reports)
    {report : Report} (hmem : report ∈ reports) :
    report.path ∈ paths ∧ ∃ before between,
      job.Delivers parse toolchain report.path before between report := by
  induction h with
  | nil => cases hmem
  | cons hfirst _ ih =>
    rcases List.mem_cons.mp hmem with rfl | hmem
    · obtain rfl := hfirst.reports
      exact ⟨List.mem_cons_self, _, _, hfirst⟩
    · obtain ⟨hpath, hdelivers⟩ := ih hmem
      exact ⟨List.mem_cons_of_mem _ hpath, hdelivers⟩

end DeliversAll

/-! ### The output directory -/

section OutDir

variable {directory path target : Path}

/-- The result of a file below the workspace goes below the directory, by the same steps. -/
theorem components_target_of_isPrefix (hdestination : job.destination = .outDir directory)
    (hworkspace : job.workspace.isAbsolute) (hdirectory : directory.isAbsolute)
    (htarget : job.target? path = some target)
    (hstart : job.workspace.components <+: path.components) :
    target.components =
      directory.components ++ path.components.drop job.workspace.components.length := by
  simp only [target?, hdestination, Option.some.injEq] at htarget
  obtain ⟨hrelative, hsteps⟩ :=
    Path.relativeTo_of_isPrefix (Path.components_ne_nil_of_isAbsolute hworkspace) hstart
  rw [← htarget, Path.components_join (Path.text_ne_of_isAbsolute hdirectory) hrelative, hsteps]

/-- The result of any other file replaces the file. -/
theorem target_eq_of_not_isPrefix (hdestination : job.destination = .outDir directory)
    (hpath : path.isAbsolute) (htarget : job.target? path = some target)
    (hstart : ¬ job.workspace.components <+: path.components) : target = path := by
  simp only [target?, hdestination, Option.some.injEq] at htarget
  rw [← htarget, Path.relativeTo_of_not_isPrefix hstart, Path.join_of_isAbsolute hpath]

theorem isBelow_target_iff (hdestination : job.destination = .outDir directory)
    (hworkspace : job.workspace.isAbsolute) (hdirectory : directory.isAbsolute)
    (hpath : path.isAbsolute) (htarget : job.target? path = some target) :
    target.IsBelow directory ↔ path.IsBelow job.workspace ∨
      (¬ job.workspace.components <+: path.components ∧ path.IsBelow directory) := by
  by_cases hstart : job.workspace.components <+: path.components
  · obtain ⟨rest, hrest⟩ := hstart
    have hcomponents := components_target_of_isPrefix hdestination hworkspace hdirectory htarget
      ⟨rest, hrest⟩
    rw [← hrest, List.drop_left] at hcomponents
    simp only [Path.IsBelow, hcomponents, ← hrest, List.append_cancel_left_eq, List.prefix_append,
      not_true_eq_false, false_and, or_false]
  · obtain rfl := target_eq_of_not_isPrefix hdestination hpath htarget hstart
    constructor
    · intro hbelow
      exact .inr ⟨hstart, hbelow⟩
    · rintro (⟨names, -, hnames⟩ | ⟨-, hbelow⟩)
      · exact absurd (hnames ▸ List.prefix_append _ _) hstart
      · exact hbelow

/-- With an output directory, results are below it exactly for the files that are below the
workspace and named without `..`, and for files of the directory that are not below the
workspace. Other files that are not below the workspace are replaced by their results. While
only files of the first kind are woven, nothing that is not below the directory changes. -/
theorem weaveFiles_outDir (hdestination : job.destination = .outDir directory)
    (hworkspace : job.workspace.isAbsolute) (hdirectory : directory.isAbsolute)
    {files : List Path} (hfiles : ∀ path ∈ files, path.isAbsolute) (effects : Effects)
    {reports : List Report} {after : Effects}
    (hrun : job.weaveFiles parse toolchain start files effects = (reports, after)) :
    (∀ report ∈ reports, ∀ target, report.outcome = .written target →
      (target.IsBelow directory ↔ report.path.IsBelow job.workspace ∨
        (¬ job.workspace.components <+: report.path.components ∧
          report.path.IsBelow directory)) ∧
      (¬ job.workspace.components <+: report.path.components → target = report.path)) ∧
    ((∀ path ∈ files, path.IsBelow job.workspace) →
      Keeps (fun location => ∃ names, names ≠ [] ∧ location = directory.place ++ names)
        effects.tree after.tree) := by
  have hall := deliversAll_weaveFiles hrun
  constructor
  · intro report hreport target hwritten
    obtain ⟨hmem, before, between, hdelivers⟩ := hall.exists_delivers hreport
    obtain ⟨htarget, -⟩ := hdelivers.written target hwritten
    have hpath := hfiles _ hmem
    exact ⟨isBelow_target_iff hdestination hworkspace hdirectory hpath htarget,
      target_eq_of_not_isPrefix hdestination hpath htarget⟩
  · intro hbelow
    apply hall.keeps.mono
    rintro location ⟨path, hmem, target, htarget, rfl⟩
    exact Path.place_of_isBelow ((isBelow_target_iff hdestination hworkspace hdirectory
      (hfiles path hmem) htarget).mpr (.inl (hbelow path hmem)))

/-- The source of a component that is made by calling a function. -/
def componentSource (function : String) : String :=
  "<template></template><script lang=\"ts\">export default " ++ function ++ "(\x7b\x7d)</script>"

/-- What it is woven to, when its template is compiled to one call. -/
def wovenSource (function : String) : String :=
  "<script lang=\"ts\">export default " ++ function ++
    "(\x7b\n  render: function () \x7bb()\x7d,\n  staticRenderFns: [],\x7d)</script>"

/-- A workspace with a component, and another component outside. -/
def outDirTree : FileTree :=
  ⟨[(["app"], .directory), (["app", "A.vue"], .file (.text (componentSource "f"))),
    (["lib"], .directory), (["lib", "B.vue"], .file (.text (componentSource "g")))]⟩

def outDirJob : Job where
  workspace := .ofText "/app"
  destination := .outDir (.ofText "/app/out")

/-- Weaves one file of the sample. -/
def outDirRun (file : String) : List Report × Effects :=
  outDirJob.weaveFiles Script.parse (constantToolchain "b()") (fun _ => .ok ()) [.ofText file]
    { tree := outDirTree }

theorem weaveFiles_outDir_inside :
    discover outDirTree outDirJob.workspace (fun _ => false)
      ([Path.ofText "A.vue"].map (·.absoluteIn (.ofText "/app"))) = .ok [.ofText "/app/A.vue"] ∧
    (outDirRun "/app/A.vue").1 =
      [⟨.ofText "/app/A.vue", .written (.ofText "/app/out/A.vue")⟩] ∧
    (Path.ofText "/app/out/A.vue").IsBelow (.ofText "/app/out") ∧
    (outDirRun "/app/A.vue").2.tree.find? ["lib", "B.vue"] =
      some (.file (.text (componentSource "g"))) := by
  have hdiscover : discover outDirTree outDirJob.workspace (fun _ => false)
      ([Path.ofText "A.vue"].map (·.absoluteIn (.ofText "/app"))) = .ok [.ofText "/app/A.vue"] :=
    Except.mem_toOption_iff.mp (by decide +kernel)
  have habsolute : ∀ path ∈ [Path.ofText "/app/A.vue"], path.isAbsolute := fun _ =>
    isAbsolute_of_discover (by decide +kernel) hdiscover
  have hreports : (outDirRun "/app/A.vue").1 =
      [⟨.ofText "/app/A.vue", .written (.ofText "/app/out/A.vue")⟩] := by decide +kernel
  rcases hrun : outDirRun "/app/A.vue" with ⟨reports, after⟩
  rw [hrun] at hreports
  obtain rfl := hreports
  have hpath : (Path.ofText "/app/A.vue").IsBelow outDirJob.workspace :=
    ⟨["A.vue"], List.cons_ne_nil _ _, by decide +kernel⟩
  have hdestination : outDirJob.destination = .outDir (.ofText "/app/out") := rfl
  obtain ⟨hinside, hkeeps⟩ := weaveFiles_outDir hdestination (by decide +kernel)
    (by decide +kernel) habsolute _ hrun
  refine ⟨hdiscover, rfl, (hinside _ List.mem_cons_self _ rfl).1.mpr (.inl hpath), ?_⟩
  apply ((hkeeps (List.forall_mem_singleton.mpr hpath)).files ["lib", "B.vue"] _ _).mpr
  · decide +kernel
  · rintro ⟨names, -, hnames⟩
    have hfirst := congrArg List.head? hnames
    rw [show (Path.ofText "/app/out").place = ["app", "out"] by decide +kernel] at hfirst
    exact absurd hfirst (by simp)

/-- A file that is not below the workspace is replaced, although a directory has been given for the
results. -/
theorem weaveFiles_replaces_source :
    discover outDirTree outDirJob.workspace (fun _ => false) [.ofText "/lib/B.vue"] =
      .ok [.ofText "/lib/B.vue"] ∧
    outDirTree.readText (.ofText "/lib/B.vue") = .ok (componentSource "g") ∧
    (outDirRun "/lib/B.vue").1 =
      [⟨.ofText "/lib/B.vue", .written (.ofText "/lib/B.vue")⟩] ∧
    (outDirRun "/lib/B.vue").2.tree.readText (.ofText "/lib/B.vue") = .ok (wovenSource "g") ∧
    ¬ (Path.ofText "/lib/B.vue").IsBelow (.ofText "/app/out") := by
  have hrun : ((outDirRun "/lib/B.vue").1,
      ((outDirRun "/lib/B.vue").2.tree.readText (.ofText "/lib/B.vue")).toOption) =
      ([⟨.ofText "/lib/B.vue", .written (.ofText "/lib/B.vue")⟩], some (wovenSource "g")) := by
    decide +kernel
  obtain ⟨hreports, hcode⟩ := Prod.mk.inj hrun
  refine ⟨Except.mem_toOption_iff.mp (by decide +kernel),
    Except.mem_toOption_iff.mp (by decide +kernel), hreports, Except.mem_toOption_iff.mp hcode, ?_⟩
  rintro ⟨names, -, hcomponents⟩
  have hstart := List.prefix_append (Path.ofText "/app/out").components (names.map .name)
  rw [← hcomponents] at hstart
  exact absurd hstart (by decide +kernel)

end OutDir

end Job

end SfcWeave
