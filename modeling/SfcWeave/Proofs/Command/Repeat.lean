import SfcWeave.Proofs.Command.Collision
import SfcWeave.Proofs.Files.Rediscovery
import SfcWeave.Proofs.Weaving.Steady

/-!
# Weaving twice

When results go next to the sources, weaving all that is found below some directories can be
repeated: no file that is found changes, the same files are found afterwards, and weaving them once
more gives the same reports and leaves the tree as it is (`Job.weaveFiles_repeatable`).

The reason is that what is done with a file is known beforehand (`Job.Foresees`): its report, and
the texts that are written for it, are the same in all trees that differ in results only. A second
run writes the same texts in the same order, so that it does not matter whether some of them go to
the same place.
-/

namespace SfcWeave

open FileTree

variable {σ α β : Type} {job : Job} {parse : Script.Parser} {toolchain : Toolchain σ}
  {start : FileTree → Except String σ} {tree : FileTree} {path : Path} {folder : Location}
  {name : String}

/-! ### The toolchains that files get -/

namespace Pool

variable {pool : Pool σ}

/-- While no start has failed and the next one does not, there is a toolchain. -/
theorem exists_acquire_eq_ok (begin : Unit → Except String σ)
    (hbegin : ∃ state, begin () = .ok state) (hpool : pool.startupError = none) :
    ∃ state rest, pool.acquire begin = (.ok state, rest) ∧ rest.startupError = none := by
  obtain ⟨state, hbegin⟩ := hbegin
  unfold acquire
  rcases htake : pool.take? with _ | ⟨idle, rest⟩
  · exact ⟨state, pool, by simp only [hpool, hbegin], hpool⟩
  · exact ⟨idle, rest, rfl, (take?_eq_some_iff.mp htake).2.trans hpool⟩

/-- All that can be known of a pool if every start fails with the same message. -/
structure Refuses (message : String) (pool : Pool σ) : Prop where
  idle : pool.idle = []
  startupError : ∀ first, pool.startupError = some first → first = message

theorem Refuses.exists_acquire_eq_error {message : String} (h : pool.Refuses message)
    (begin : Unit → Except String σ) (hbegin : begin () = .error message) :
    ∃ rest, pool.acquire begin = (.error message, rest) ∧ rest.Refuses message := by
  unfold acquire
  rw [take?_eq_none_iff.mpr h.idle]
  dsimp only
  rcases hfailed : pool.startupError with _ | first
  · refine ⟨(pool.recordFailure message).2, by simp [hbegin, recordFailure, hfailed], ?_, ?_⟩
    · rw [idle_recordFailure, h.idle]
    · simp [recordFailure, hfailed]
  · obtain rfl := h.startupError first hfailed
    exact ⟨pool, rfl, h⟩

end Pool

namespace Job

/-! ### What is known beforehand -/

/-- An action on files is known beforehand from a tree: in all trees that differ in results only,
it has the same result and writes the same texts, and it keeps a property of the pool. -/
structure Foresees (Fit : Pool σ → Prop) (tree : FileTree) (action : StateM (Pool σ × Effects) α)
    (result : α) (texts : List (Location × String)) : Prop where
  admits : tree.Admits IsWovenPlace texts
  run : ∀ pool effects, Fit pool → tree.Agree IsWovenPlace effects.tree →
    ∃ next after, action.run (pool, effects) = (result, next, after) ∧ Fit next ∧
      after.tree = effects.tree.putTexts texts

namespace Foresees

variable {Fit : Pool σ → Prop}

theorem pure (a : α) : Foresees Fit tree (pure a) a [] where
  admits := nofun
  run pool effects hpool _ := ⟨pool, effects, rfl, hpool, rfl⟩

theorem bind {action : StateM (Pool σ × Effects) α} {next : α → StateM (Pool σ × Effects) β}
    {a : α} {b : β} {texts more : List (Location × String)}
    (haction : Foresees Fit tree action a texts) (hnext : Foresees Fit tree (next a) b more) :
    Foresees Fit tree (action >>= next) b (texts ++ more) where
  admits := haction.admits.append hnext.admits
  run pool effects hpool hagree := by
    obtain ⟨between, middle, hfirst, hbetween, hmiddle⟩ := haction.run pool effects hpool hagree
    have hstill : tree.Agree IsWovenPlace middle.tree := by
      rw [hmiddle]
      exact hagree.trans (Admits.of_agree hagree haction.admits).agree
    obtain ⟨last, after, hrest, hlast, hafter⟩ := hnext.run between middle hbetween hstill
    refine ⟨last, after, ?_, hlast, ?_⟩
    · rw [StateT.run_bind, hfirst]
      exact hrest
    · rw [hafter, hmiddle, putTexts_append]

/-- The induction is on the items: what is done with the first one leaves a tree in which the rest
is still known. -/
theorem exists_mapM {action : β → StateM (Pool σ × Effects) α} {items : List β}
    (h : ∀ item ∈ items, ∃ result texts, Foresees Fit tree (action item) result texts) :
    ∃ results texts, Foresees Fit tree (items.mapM action) results texts := by
  induction items with
  | nil => exact ⟨[], [], pure []⟩
  | cons item items ih =>
    obtain ⟨⟨first, texts, hfirst⟩, hrest⟩ := List.forall_mem_cons.mp h
    obtain ⟨rest, more, hrest⟩ := ih hrest
    rw [List.mapM_cons]
    exact ⟨_, _, hfirst.bind (hrest.bind (pure (first :: rest)))⟩

end Foresees

/-! ### One file -/

/-- The result of a component ends in the directory of the component. -/
theorem endsIn_siblingOf (h : tree.EndsIn path folder name) :
    tree.EndsIn (siblingOf path) folder (Path.stem name ++ wovenSuffix) := by
  have hslash : '/' ∉ (Path.stem name).toList := fun hmem =>
    h.isName.2.2 ((Path.stem_isPrefix name).subset hmem)
  rw [siblingOf, h.fileName?]
  exact h.withFileName (isName_append_wovenSuffix hslash)

theorem isWovenPlace_append_wovenSuffix (hname : Path.IsName (name ++ wovenSuffix)) :
    IsWovenPlace (folder ++ [name ++ wovenSuffix]) := by
  refine ⟨folder, _, rfl, hname, List.isSuffixOf_iff_suffix.mpr ?_⟩
  rw [String.toList_append]
  exact List.suffix_append _ _

theorem deliver_sibling (hdestination : job.destination = .sibling) (path : Path) (code : String)
    (effects : Effects) :
    job.deliver path code effects =
      match (FileAction.write (siblingOf path) code).run.run effects.tree with
      | (.ok (), tree) => (.written (siblingOf path), { effects with tree })
      | (.error error, tree) =>
        (.failed (writeFailure (siblingOf path) error) none, { effects with tree }) := by
  simp only [deliver, target?, hdestination, Effects.write, StateT.run]
  rcases (FileAction.write (siblingOf path) code).run effects.tree with ⟨error | done, tree⟩ <;> rfl

/-- A result is written at its place, or not at all if there is a directory. -/
theorem exists_deliver (hdestination : job.destination = .sibling)
    (hends : tree.EndsIn path folder name) (code : String) :
    ∃ outcome texts, tree.Admits IsWovenPlace texts ∧ ∀ effects : Effects,
      tree.Agree IsWovenPlace effects.tree → ∃ after,
        job.deliver path code effects = (outcome, after) ∧
        after.tree = effects.tree.putTexts texts := by
  have htarget := endsIn_siblingOf hends
  have hplace : IsWovenPlace (folder ++ [Path.stem name ++ wovenSuffix]) :=
    isWovenPlace_append_wovenSuffix htarget.isName
  by_cases htaken : tree.find? (folder ++ [Path.stem name ++ wovenSuffix]) = some .directory
  · refine ⟨.failed (writeFailure (siblingOf path) .isDirectory) none, [], nofun, ?_⟩
    intro effects hagree
    refine ⟨effects, ?_, rfl⟩
    rw [deliver_sibling hdestination, FileAction.run_write (htarget.of_keeps hagree.forth),
      if_pos (hagree.directory_iff.mpr htaken)]
  · refine ⟨.written (siblingOf path), [(folder ++ [Path.stem name ++ wovenSuffix], code)],
      List.forall_mem_singleton.mpr ⟨hplace, htaken⟩, ?_⟩
    intro effects hagree
    refine ⟨{ effects with tree := effects.tree.putTexts [(_, code)] }, ?_, rfl⟩
    rw [deliver_sibling hdestination, FileAction.run_write (htarget.of_keeps hagree.forth),
      if_neg fun hdirectory => htaken (hagree.directory_iff.mp hdirectory)]
    rfl

/-- With a steady toolchain in any state, weaving a file is known beforehand. -/
theorem exists_weaveFile (parse : Script.Parser) (hdestination : job.destination = .sibling)
    (hsteady : toolchain.IsSteady) (hends : tree.EndsIn path folder name)
    (hcomponent : isComponentName name) (usual : σ) :
    ∃ report texts, tree.Admits IsWovenPlace texts ∧ ∀ state, ∀ effects : Effects,
      tree.Agree IsWovenPlace effects.tree → ∃ next after,
        job.weaveFile parse toolchain path state effects = (report, next, after) ∧
        after.tree = effects.tree.putTexts texts := by
  have hread : ∀ effects : Effects, tree.Agree IsWovenPlace effects.tree →
      effects.tree.readText path = tree.readText path := by
    intro effects hagree
    rw [readText, FileTree.read, hagree.locate_eq hends (not_isWovenPlace hcomponent)]
    rfl
  rcases hsource : tree.readText path with error | source
  · refine ⟨.failure path ("failed to read file: " ++ error.message), [], nofun, ?_⟩
    intro state effects hagree
    exact ⟨state, effects, by simp only [weaveFile, hread effects hagree, hsource], rfl⟩
  obtain ⟨result, hweave⟩ :=
    hsteady.exists_run_weave parse job.options path.text source usual
  change ∀ state, ∃ next, (weave parse toolchain job.options path.text source).run
    { toolchain := state } = (result, next) at hweave
  rcases result with error | woven
  · refine ⟨⟨path, .ofError source error⟩, [], nofun, ?_⟩
    intro state effects hagree
    obtain ⟨session, hrun⟩ := hweave state
    refine ⟨session.toolchain, effects.warn session.warnings.reverse, ?_, rfl⟩
    simp only [weaveFile, hread effects hagree, hsource, hrun]
  by_cases hinjected : woven.injection.isInjected
  · obtain ⟨outcome, texts, hadmits, hdeliver⟩ := exists_deliver hdestination hends woven.code
    refine ⟨⟨path, outcome⟩, texts, hadmits, ?_⟩
    intro state effects hagree
    obtain ⟨session, hrun⟩ := hweave state
    obtain ⟨after, hdelivers, hafter⟩ :=
      hdeliver (effects.warn session.warnings.reverse) hagree
    refine ⟨session.toolchain, after, ?_, hafter⟩
    simp only [weaveFile, hread effects hagree, hsource, hrun, hinjected, if_true, hdelivers]
  · refine ⟨⟨path, .ofUninjected woven.injection⟩, [], nofun, ?_⟩
    intro state effects hagree
    obtain ⟨session, hrun⟩ := hweave state
    refine ⟨session.toolchain, effects.warn session.warnings.reverse, ?_, rfl⟩
    simp only [weaveFile, hread effects hagree, hsource, hrun, hinjected, Bool.false_eq_true,
      if_false]

/-! ### All files -/

/-- With a steady toolchain that can be started, each file is known beforehand. -/
theorem exists_foresees_of_isSteady (hdestination : job.destination = .sibling)
    (hsteady : toolchain.IsSteady) (hstart : ∀ tree, ∃ state, start tree = .ok state)
    (hends : tree.EndsIn path folder name) (hcomponent : isComponentName name) :
    ∃ report texts, Foresees (fun pool => pool.startupError = none) tree
      (job.weavePooled parse toolchain start path) report texts := by
  obtain ⟨usual, -⟩ := hstart tree
  obtain ⟨report, texts, hadmits, hweave⟩ := exists_weaveFile parse hdestination hsteady
    hends hcomponent usual
  refine ⟨report, texts, hadmits, ?_⟩
  intro pool effects hpool hagree
  obtain ⟨state, rest, hacquire, hrest⟩ :=
    Pool.exists_acquire_eq_ok (fun () => start effects.tree) (hstart effects.tree) hpool
  obtain ⟨next, after, hrun, hafter⟩ := hweave state effects hagree
  refine ⟨rest.giveBack next, after, ?_, hrest, hafter⟩
  rw [run_weavePooled, hacquire]
  simp only [hrun]

/-- If every start fails with the same message, each file is reported with it. -/
theorem foresees_of_refused {message : String} (hstart : ∀ tree, start tree = .error message)
    (path : Path) :
    Foresees (Pool.Refuses message) tree (job.weavePooled parse toolchain start path)
      (.failure path message) [] where
  admits := nofun
  run pool effects hpool _ := by
    obtain ⟨rest, hacquire, hrest⟩ :=
      hpool.exists_acquire_eq_error (fun () => start effects.tree) (hstart effects.tree)
    refine ⟨rest, effects, ?_, hrest, rfl⟩
    rw [run_weavePooled, hacquire]

/-- What is known beforehand of the files of a command. -/
theorem Foresees.exists_weaveFiles {Fit : Pool σ → Prop} {files : List Path}
    {reports : List Report} {texts : List (Location × String)}
    (h : Foresees Fit tree (files.mapM (job.weavePooled parse toolchain start)) reports texts)
    (hpool : Fit {}) (effects : Effects) (hagree : tree.Agree IsWovenPlace effects.tree) :
    ∃ after, job.weaveFiles parse toolchain start files effects = (reports, after) ∧
      after.tree = effects.tree.putTexts texts := by
  obtain ⟨next, after, hrun, -, hafter⟩ := h.run {} effects hpool hagree
  exact ⟨after, by simp only [weaveFiles, hrun], hafter⟩

/-- If the answers of a toolchain depend on the requests alone, or if its start always fails with
the same message, then weaving what is found below directories, with results next to the sources,
is repeatable: the files that are found stay as they are, the same files are found afterwards, and
weaving them again gives the same reports and does not change the tree. -/
theorem weaveFiles_repeatable {ignored : String → Bool} {roots : List Path}
    (hdestination : job.destination = .sibling) (htree : tree.WellFormed)
    (hroots : ∀ root ∈ roots, tree.isDirectory root)
    (htoolchain : (toolchain.IsSteady ∧ ∀ tree, ∃ state, start tree = .ok state) ∨
      ∃ message, ∀ tree, start tree = .error message) :
    ∃ files, discover tree job.workspace ignored roots = .ok files ∧
      ∀ (effects after : Effects) (reports : List Report), effects.tree = tree →
        job.weaveFiles parse toolchain start files effects = (reports, after) →
        (∀ path ∈ files, after.tree.locate path = tree.locate path) ∧
        discover after.tree job.workspace ignored roots = .ok files ∧
        ∀ again : Effects, again.tree = after.tree → ∃ last,
          job.weaveFiles parse toolchain start files again = (reports, last) ∧
          last.tree = after.tree := by
  obtain ⟨files, hfound⟩ := exists_discover hroots job.workspace ignored
  have hends : ∀ path ∈ files, ∃ folder name, tree.EndsIn path folder name ∧ isComponentName name :=
    fun path hmem => exists_endsIn_of_discover htree hroots hfound hmem
  -- in either case all files are known beforehand, from some property of the pool
  have hknown : ∃ (Fit : Pool σ → Prop) (reports : List Report)
      (texts : List (Location × String)), Fit {} ∧
      Foresees Fit tree (files.mapM (job.weavePooled parse toolchain start)) reports texts := by
    rcases htoolchain with ⟨hsteady, hstart⟩ | ⟨message, hstart⟩
    · have hfiles : ∀ path ∈ files, ∃ report texts,
          Foresees (fun pool => pool.startupError = none) tree
            (job.weavePooled parse toolchain start path) report texts := by
        intro path hmem
        obtain ⟨folder, name, hpath, hcomponent⟩ := hends path hmem
        exact exists_foresees_of_isSteady hdestination hsteady hstart hpath hcomponent
      obtain ⟨reports, texts, hall⟩ := Foresees.exists_mapM hfiles
      exact ⟨fun pool => pool.startupError = none, reports, texts, rfl, hall⟩
    · have hfiles : ∀ path ∈ files, ∃ report texts, Foresees (Pool.Refuses message) tree
          (job.weavePooled parse toolchain start path) report texts :=
        fun path _ => ⟨_, _, foresees_of_refused hstart path⟩
      obtain ⟨reports, texts, hall⟩ := Foresees.exists_mapM hfiles
      exact ⟨Pool.Refuses message, reports, texts, ⟨rfl, nofun⟩, hall⟩
  obtain ⟨Fit, known, texts, hfit, hall⟩ := hknown
  refine ⟨files, hfound, ?_⟩
  rintro effects after reports rfl hrun
  obtain ⟨first, hfirst, htexts⟩ := hall.exists_weaveFiles hfit effects (.refl _ _)
  obtain ⟨rfl, rfl⟩ := Prod.mk.inj (hfirst.symm.trans hrun)
  have hagree : effects.tree.Agree IsWovenPlace first.tree := htexts ▸ hall.admits.agree
  refine ⟨?_, ?_, ?_⟩
  · intro path hmem
    obtain ⟨folder, name, hpath, hcomponent⟩ := hends path hmem
    exact hagree.locate_eq hpath (not_isWovenPlace hcomponent)
  · rw [htexts, discover_putTexts hroots hall.admits, hfound]
  · intro again hagain
    obtain ⟨last, hlast, hafter⟩ := hall.exists_weaveFiles hfit again (hagain ▸ hagree)
    refine ⟨last, hlast, ?_⟩
    rw [hafter, hagain, htexts, putTexts_putTexts]

theorem isSteady_constantToolchain (render : String) : (constantToolchain render).IsSteady where
  compile _ _ _ := rfl
  transpile _ _ _ := rfl

theorem wellFormed_siblingTree {first second : String} (hfirst : Path.IsName first)
    (hsecond : Path.IsName second) : (siblingTree first second).WellFormed := by
  have hentries : ∀ entry ∈ (siblingTree first second).entries,
      entry.1 = [first] ∨ entry.1 = [second] := by
    simp [siblingTree]
  constructor
  · intro entry hentry name hname
    rcases hentries entry hentry with h | h <;> rw [h, List.mem_singleton] at hname
    · exact hname ▸ hfirst
    · exact hname ▸ hsecond
  · intro entry hentry place hplace hne
    obtain rfl : place = [] := by
      rcases hentries entry hentry with h | h <;> rw [h] at hplace hne
      · simpa [List.prefix_cons_iff, hne] using hplace
      · simpa [List.prefix_cons_iff, hne] using hplace
    rfl

/-- The results of both files go to the same place, and a second run leaves there what the first
one has left. -/
theorem weaveFiles_repeatable_sameTarget :
    discover (siblingTree ".vue" ".vue.vue") siblingJob.workspace (fun _ => false)
      [.ofText "/"] = .ok [.ofText "/.vue", .ofText "/.vue.vue"] ∧
    ∃ after last reports,
      siblingRun (siblingTree ".vue" ".vue.vue") ["/.vue", "/.vue.vue"] = (reports, after) ∧
      reports = [⟨.ofText "/.vue", .written (.ofText "/.vue.typed.vue")⟩,
        ⟨.ofText "/.vue.vue", .written (.ofText "/.vue.typed.vue")⟩] ∧
      siblingRun after.tree ["/.vue", "/.vue.vue"] = (reports, last) ∧
      last.tree = after.tree := by
  have hreports : (siblingRun (siblingTree ".vue" ".vue.vue") ["/.vue", "/.vue.vue"]).1 =
      [⟨.ofText "/.vue", .written (.ofText "/.vue.typed.vue")⟩,
        ⟨.ofText "/.vue.vue", .written (.ofText "/.vue.typed.vue")⟩] := by decide +kernel
  have hfound : discover (siblingTree ".vue" ".vue.vue") siblingJob.workspace (fun _ => false)
      [.ofText "/"] = .ok [.ofText "/.vue", .ofText "/.vue.vue"] :=
    discover_siblingTree (by decide +kernel) (by decide +kernel) (by decide +kernel)
  rcases hrun : siblingRun (siblingTree ".vue" ".vue.vue") ["/.vue", "/.vue.vue"]
    with ⟨reports, after⟩
  rw [hrun] at hreports
  have htree : (siblingTree ".vue" ".vue.vue").WellFormed :=
    wellFormed_siblingTree ⟨by decide, by decide, by decide⟩ ⟨by decide, by decide, by decide⟩
  have hroot : ∀ root ∈ [Path.ofText "/"], (siblingTree ".vue" ".vue.vue").isDirectory root :=
    List.forall_mem_singleton.mpr (by decide +kernel)
  obtain ⟨files, hfiles, hrepeatable⟩ := @weaveFiles_repeatable Unit siblingJob Script.parse
    (constantToolchain "b()") (fun _ => .ok ()) (siblingTree ".vue" ".vue.vue") (fun _ => false)
    [.ofText "/"] rfl htree hroot (.inl ⟨isSteady_constantToolchain "b()", fun _ => ⟨(), rfl⟩⟩)
  obtain rfl := Except.ok.inj (hfound.symm.trans hfiles)
  obtain ⟨-, -, hagain⟩ := hrepeatable _ after reports rfl hrun
  obtain ⟨last, hlast, htree⟩ := hagain { tree := after.tree } rfl
  exact ⟨hfound, after, last, reports, rfl, hreports, hlast, htree⟩

end Job

end SfcWeave
