import SfcWeave.Proofs.Command.Delivery
import SfcWeave.Proofs.Command.Schedule

/-!
# Files one by one

Weaving files one after another is one of the ways in which workers may weave them: that of a single
worker. What holds of every run of a schedule therefore holds of `Job.weaveFiles`:

    exists_run_weaveFiles : Run paths (.initial 1 paths.length) events s ∧ s.isDone ∧
      s.inOrder paths.length = the reports of weaving the files in order
-/

namespace SfcWeave

open Schedule

variable {σ : Type} {job : Job} {parse : Script.Parser} {toolchain : Toolchain σ}
  {start : FileTree → Except String σ}

namespace Schedule

section Alone

variable {files : List Path} {waiting : List Nat} {file : Nat} {path : Path} {report : Report}

/-! ### What a single worker may do with a file -/

/-- It weaves the file with an idle toolchain. -/
theorem run_reused (hwaits : file ∈ waiting) (hpath : files[file]? = some report.path)
    (number : Nat) (idle : List Nat) (known : Option String) (started : Nat)
    (reports : List (Nat × Report)) :
    Run files ⟨⟨number :: idle, known⟩, [.free], waiting, started, reports⟩
      [⟨0, file, .take⟩, ⟨0, file, .reuse⟩, ⟨0, file, .weave report.outcome⟩, ⟨0, file, .giveBack⟩]
      ⟨⟨number :: idle, known⟩, [.free], waiting.erase file, started, (file, report) :: reports⟩ :=
  .cons (.take rfl hwaits) <| .cons (.reuse rfl rfl) <| .cons (.weave rfl hpath) <|
  .cons (.giveBack rfl) .nil

/-- It learns that a start has failed. -/
theorem run_givenUp (hwaits : file ∈ waiting) (hpath : files[file]? = some path)
    (message : String) (started : Nat) (reports : List (Nat × Report)) :
    Run files ⟨⟨[], some message⟩, [.free], waiting, started, reports⟩
      [⟨0, file, .take⟩, ⟨0, file, .lack⟩, ⟨0, file, .giveUp message⟩]
      ⟨⟨[], some message⟩, [.free], waiting.erase file, started,
        (file, .failure path message) :: reports⟩ :=
  .cons (.take rfl hwaits) <| .cons (.lack rfl rfl) <| .cons (.giveUp rfl rfl hpath) .nil

/-- Its start fails. -/
theorem run_refused (hwaits : file ∈ waiting) (hpath : files[file]? = some path)
    (message : String) (started : Nat) (reports : List (Nat × Report)) :
    Run files ⟨⟨[], none⟩, [.free], waiting, started, reports⟩
      [⟨0, file, .take⟩, ⟨0, file, .lack⟩, ⟨0, file, .attempt⟩, ⟨0, file, .refuse message⟩,
        ⟨0, file, .record message⟩]
      ⟨⟨[], some message⟩, [.free], waiting.erase file, started,
        (file, .failure path message) :: reports⟩ :=
  .cons (.take rfl hwaits) <| .cons (.lack rfl rfl) <| .cons (.attempt rfl rfl) <|
  .cons (.refuse rfl) <| .cons (.record rfl rfl hpath) .nil

/-- It weaves the file with a toolchain that it has started. -/
theorem run_started (hwaits : file ∈ waiting) (hpath : files[file]? = some report.path)
    (started : Nat) (reports : List (Nat × Report)) :
    Run files ⟨⟨[], none⟩, [.free], waiting, started, reports⟩
      [⟨0, file, .take⟩, ⟨0, file, .lack⟩, ⟨0, file, .attempt⟩, ⟨0, file, .start⟩,
        ⟨0, file, .weave report.outcome⟩, ⟨0, file, .giveBack⟩]
      ⟨⟨[started], none⟩, [.free], waiting.erase file, started + 1, (file, report) :: reports⟩ :=
  .cons (.take rfl hwaits) <| .cons (.lack rfl rfl) <| .cons (.attempt rfl rfl) <|
  .cons (.start rfl) <| .cons (.weave rfl hpath) <| .cons (.giveBack rfl) .nil

end Alone

/-! ### The files in order -/

/-- A schedule of one worker that is free, with a pool like that of the files done so far. -/
structure Follows (s : Schedule) (pool : Pool σ) : Prop where
  stages : s.stages = [.free]
  idle : s.pool.idle.length = pool.idle.length
  startupError : s.pool.startupError = pool.startupError

/-- A worker that is free can do with a file what is done with it alone. -/
theorem exists_run_weavePooled {files : List Path} {s : Schedule} {pool next : Pool σ}
    {effects after : Effects} {file : Nat} {path : Path} {report : Report}
    (hfollows : Follows s pool) (hwaits : file ∈ s.waiting) (hpath : files[file]? = some path)
    (hrun : (job.weavePooled parse toolchain start path).run (pool, effects) =
      (report, next, after)) :
    ∃ events t, Run files s events t ∧ Follows t next ∧
      t.waiting = s.waiting.erase file ∧ t.reports = (file, report) :: s.reports := by
  obtain ⟨⟨numbers, known⟩, stages, waiting, started, reports⟩ := s
  obtain ⟨idle, error⟩ := pool
  obtain ⟨rfl, hidle, rfl⟩ := hfollows
  rw [Job.run_weavePooled] at hrun
  cases idle with
  | cons state idle =>
    obtain ⟨number, numbers, rfl⟩ := List.exists_cons_of_length_eq_add_one hidle
    rcases hweave : job.weaveFile parse toolchain path state effects with ⟨own, last, done⟩
    obtain rfl := (Job.delivers_weaveFile hweave).reports
    simp only [Pool.acquire, Pool.take?, hweave] at hrun
    cases hrun
    exact ⟨_, _, run_reused hwaits hpath .., ⟨rfl, hidle, rfl⟩, rfl, rfl⟩
  | nil =>
    obtain rfl : numbers = [] := by simpa using hidle
    cases known with
    | some message =>
      simp only [Pool.acquire, Pool.take?] at hrun
      cases hrun
      exact ⟨_, _, run_givenUp hwaits hpath .., ⟨rfl, rfl, rfl⟩, rfl, rfl⟩
    | none =>
      rcases hstart : start effects.tree with message | state
      · simp only [Pool.acquire, Pool.take?, hstart] at hrun
        cases hrun
        exact ⟨_, _, run_refused hwaits hpath .., ⟨rfl, rfl, rfl⟩, rfl, rfl⟩
      · rcases hweave : job.weaveFile parse toolchain path state effects with ⟨own, last, done⟩
        obtain rfl := (Job.delivers_weaveFile hweave).reports
        simp only [Pool.acquire, Pool.take?, hstart, hweave] at hrun
        cases hrun
        exact ⟨_, _, run_started hwaits hpath .., ⟨rfl, rfl, rfl⟩, rfl, rfl⟩

/-- The induction is on the files that are left; those before them have been dealt with. -/
theorem exists_run_mapM {before paths : List Path} {s : Schedule} {pool last : Pool σ}
    {effects after : Effects} {reports : List Report} (hfollows : Follows s pool)
    (hwaiting : s.waiting = List.range' before.length paths.length)
    (hrun : (paths.mapM (job.weavePooled parse toolchain start)).run (pool, effects) =
      (reports, last, after)) :
    ∃ events t, Run (before ++ paths) s events t ∧ t.isDone = true ∧
      reports.length = paths.length ∧
      t.reports =
        ((reports.zipIdx before.length).map fun (report, file) => (file, report)).reverse ++
          s.reports := by
  induction paths generalizing before s pool effects reports with
  | nil =>
    cases hrun
    refine ⟨[], s, .nil, ?_, rfl, by simp⟩
    simp [isDone, hfollows.stages, hwaiting]
  | cons path paths ih =>
    rw [Job.run_mapM_cons] at hrun
    rcases hfirst : (job.weavePooled parse toolchain start path).run (pool, effects)
      with ⟨report, next, between⟩
    rcases hrest : (paths.mapM (job.weavePooled parse toolchain start)).run (next, between)
      with ⟨others, final⟩
    simp only [hfirst, hrest] at hrun
    cases hrun
    rw [List.length_cons, List.range'_succ] at hwaiting
    have hwaits : before.length ∈ s.waiting := by simp [hwaiting]
    have hpath : (before ++ path :: paths)[before.length]? = some path := by simp
    obtain ⟨events, t, hsteps, hnext, hwaiting', hreports⟩ :=
      exists_run_weavePooled hfollows hwaits hpath hfirst
    rw [hwaiting, List.erase_cons_head] at hwaiting'
    have hlength : (before ++ [path]).length = before.length + 1 := by simp
    rw [← hlength] at hwaiting'
    obtain ⟨more, u, hmore, hdone, hcount, hall⟩ := ih hnext hwaiting' hrest
    rw [List.append_assoc, List.singleton_append] at hmore
    refine ⟨events ++ more, u, hsteps.append hmore, hdone, by simp [hcount], ?_⟩
    rw [hall, hreports, hlength]
    simp

/-- Weaving files one by one is a run of one worker, with the same reports. -/
theorem exists_run_weaveFiles (job : Job) (parse : Script.Parser) (toolchain : Toolchain σ)
    (start : FileTree → Except String σ) (paths : List Path) (effects : Effects) :
    ∃ events s, Run paths (.initial 1 paths.length) events s ∧ s.isDone = true ∧
      s.inOrder paths.length = (job.weaveFiles parse toolchain start paths effects).1 := by
  have hfollows : Follows (.initial 1 paths.length) ({} : Pool σ) := ⟨rfl, rfl, rfl⟩
  rcases hrun : (paths.mapM (job.weavePooled parse toolchain start)).run ({}, effects)
    with ⟨reports, last, after⟩
  have hwaiting : (Schedule.initial 1 paths.length).waiting =
      List.range' ([] : List Path).length paths.length := List.range_eq_range' ..
  obtain ⟨events, s, hsteps, hdone, hlength, hreports⟩ := exists_run_mapM hfollows hwaiting hrun
  have hledger := (ledger_initial 1 paths).run hsteps
  refine ⟨events, s, hsteps, hdone, ?_⟩
  have hlookup : ∀ file ∈ List.range paths.length, s.reports.lookup file = reports[file]? := by
    intro file hfile
    obtain ⟨report, hfound, hmem⟩ := hledger.exists_lookup hdone (List.mem_range.mp hfile)
    have hpair : (report, file) ∈ reports.zipIdx := by
      simpa [hreports, initial, List.mem_map] using hmem
    rw [hfound, List.mem_zipIdx_iff_getElem?.mp hpair]
  have hresult : (job.weaveFiles parse toolchain start paths effects).1 = reports := by
    unfold Job.weaveFiles
    rw [hrun]
  rw [hresult, inOrder, List.filterMap_congr hlookup, ← hlength]
  exact filterMap_range_getElem? reports

end Schedule

end SfcWeave
