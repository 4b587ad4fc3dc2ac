import Mathlib.Data.List.Basic
import SfcWeave.Command.Schedule

/-!
# Weaving in parallel is safe

Whatever the order in which the workers take their steps, no toolchain is in two places at once,
no more toolchains are started than there are workers, and each file has its report in the end:

    sound_of_run : Run files (.initial workers files.length) events s → Sound workers files events s

The bound on the number of toolchains does not hold step by step: a worker that has found no idle
toolchain starts one even if another worker has given one back since. What does hold is a bound on
the idle toolchains together with the workers that have a toolchain or are about to start one
(`Ledger.engaged`): a worker joins these only when nothing is idle.
-/

namespace SfcWeave.Schedule

variable {workers : Nat} {files : List Path} {s t u : Schedule} {event : Event}
  {events more : List Event}

/-! ### Sums over the workers -/

/-- What a stage counts for, summed over all workers. -/
def total (weight : Stage → Nat) : List Stage → Nat
  | [] => 0
  | stage :: stages => weight stage + total weight stages

theorem total_set {stages : List Stage} {worker : Nat} {old : Stage}
    (h : stages[worker]? = some old) (new : Stage) (weight : Stage → Nat) :
    total weight (stages.set worker new) + weight old = total weight stages + weight new := by
  induction stages generalizing worker with
  | nil => cases h
  | cons stage stages ih =>
    cases worker with
    | zero =>
      obtain rfl : stage = old := by simpa using h
      simp only [total, List.set_cons_zero]
      omega
    | succ worker =>
      have hrest := ih (by simpa using h)
      simp only [total, List.set_cons_succ] at hrest ⊢
      omega

theorem total_le_length {weight : Stage → Nat} (h : ∀ stage, weight stage ≤ 1)
    (stages : List Stage) : total weight stages ≤ stages.length := by
  induction stages with
  | nil => simp [total]
  | cons stage stages ih =>
    have hstage := h stage
    simp only [total, List.length_cons] at ih ⊢
    omega

theorem total_replicate_free {weight : Stage → Nat} (h : weight .free = 0) (count : Nat) :
    total weight (List.replicate count .free) = 0 := by
  induction count with
  | zero => rfl
  | succ count ih => rw [List.replicate_succ, total, h, ih]

/-- Does a worker have this toolchain? -/
def uses (toolchain : Nat) : Stage → Nat
  | .weaving _ own | .returning _ own _ => if own = toolchain then 1 else 0
  | _ => 0

/-- Does a worker have this file? -/
def works (file : Nat) : Stage → Nat
  | .free => 0
  | .seeking own | .lacking own | .starting own => if own = file then 1 else 0
  | .refused own _ | .weaving own _ | .returning own _ _ => if own = file then 1 else 0

/-- Does a worker have a toolchain, or has it found none? -/
def engaged : Stage → Nat
  | .lacking _ | .starting _ | .weaving .. | .returning .. => 1
  | _ => 0

/-- How many steps a worker has before it, at most, until it is done with its file. -/
def left : Stage → Nat
  | .free => 0
  | .seeking _ => 5
  | .lacking _ => 4
  | .starting _ => 3
  | .refused .. => 1
  | .weaving .. => 2
  | .returning .. => 1

theorem engaged_le_one (stage : Stage) : engaged stage ≤ 1 := by
  cases stage <;> simp [engaged]

/-! ### What every step keeps -/

/-- The books of a schedule: where each toolchain and each file is. -/
structure Ledger (workers : Nat) (files : List Path) (s : Schedule) : Prop where
  staffed : s.stages.length = workers
  /-- A toolchain that has been started is idle, or one worker has it. -/
  toolchains : ∀ toolchain, s.pool.idle.count toolchain + total (uses toolchain) s.stages =
    if toolchain < s.started then 1 else 0
  engaged : s.pool.idle.length + total engaged s.stages ≤ workers
  /-- A file waits, or one worker has it, or it has its report. -/
  placed : ∀ file, s.waiting.count file + total (works file) s.stages +
    (s.reports.map Prod.fst).count file = if file < files.length then 1 else 0
  /-- A report is on the file that it stands for. -/
  reported : ∀ file report, (file, report) ∈ s.reports → files[file]? = some report.path
  returned : ∀ file toolchain report, .returning file toolchain report ∈ s.stages →
    files[file]? = some report.path

theorem ledger_initial (workers : Nat) (files : List Path) :
    Ledger workers files (.initial workers files.length) where
  staffed := by simp [initial]
  toolchains toolchain := by
    have hfree : uses toolchain .free = 0 := rfl
    simp [initial, total_replicate_free hfree]
  engaged := by
    have hfree : Schedule.engaged .free = 0 := rfl
    simp [initial, total_replicate_free hfree]
  placed file := by
    have hfree : works file .free = 0 := rfl
    simp [initial, total_replicate_free hfree, List.count_range]
  reported := by simp [initial]
  returned := by simp [initial, List.mem_replicate]

theorem Ledger.toolchains_step (h : Ledger workers files s) (hstep : Step files s event t)
    (toolchain : Nat) :
    t.pool.idle.count toolchain + total (uses toolchain) t.stages =
      if toolchain < t.started then 1 else 0 := by
  have hbefore := h.toolchains toolchain
  cases hstep with
  | reuse stage idle =>
    have hidle := (Pool.take?_eq_some_iff.mp idle).1
    grind [total_set, move, uses]
  | record stage recorded =>
    have hidle := Pool.idle_recordFailure s.pool
    grind [total_set, move, finish, uses]
  | giveBack stage => grind [total_set, move, finish, uses, Pool.giveBack]
  | _ => grind [total_set, move, finish, uses]

theorem Ledger.engaged_step (h : Ledger workers files s) (hstep : Step files s event t) :
    t.pool.idle.length + total Schedule.engaged t.stages ≤ workers := by
  have hbefore := h.engaged
  cases hstep with
  | reuse stage idle =>
    have hidle := (Pool.take?_eq_some_iff.mp idle).1
    grind [total_set, move, Schedule.engaged]
  | @lack worker file stage idle =>
    -- nothing is idle, and no worker counts for more than one
    have hidle := Pool.take?_eq_none_iff.mp idle
    have hall := total_le_length engaged_le_one (s.stages.set worker (.lacking file))
    rw [List.length_set, h.staffed] at hall
    simpa [move, hidle] using hall
  | record stage recorded =>
    have hidle := Pool.idle_recordFailure s.pool
    grind [total_set, move, finish, Schedule.engaged]
  | giveBack stage => grind [total_set, move, finish, Schedule.engaged, Pool.giveBack]
  | _ => grind [total_set, move, finish, Schedule.engaged]

theorem Ledger.placed_step (h : Ledger workers files s) (hstep : Step files s event t)
    (file : Nat) :
    t.waiting.count file + total (works file) t.stages + (t.reports.map Prod.fst).count file =
      if file < files.length then 1 else 0 := by
  have hbefore := h.placed file
  cases hstep with
  | take stage waits =>
    have hwaits := List.count_pos_iff.mpr waits
    grind [total_set, move, works]
  | _ => grind [total_set, move, finish, works]

theorem Ledger.step (h : Ledger workers files s) (hstep : Step files s event t) :
    Ledger workers files t where
  staffed := by
    rw [← h.staffed]
    cases hstep <;> simp [move, finish]
  toolchains := h.toolchains_step hstep
  engaged := h.engaged_step hstep
  placed := h.placed_step hstep
  reported file report hmem := by
    have hbefore := h.reported file report
    cases hstep with
    | giveBack stage =>
      have hreturned := h.returned _ _ _ (List.mem_of_getElem? stage)
      grind [move, finish]
    | _ => grind [move, finish, Report.failure]
  returned file toolchain report hmem := by
    have hbefore := h.returned file toolchain report
    have hkept : ∀ {worker stage}, .returning file toolchain report ∈ s.stages.set worker stage →
        stage ≠ .returning file toolchain report → files[file]? = some report.path :=
      fun hmem hne => hbefore ((List.mem_or_eq_of_mem_set hmem).resolve_right hne.symm)
    cases hstep with
    | weave stage here => grind [move, List.mem_or_eq_of_mem_set]
    | _ => exact hkept hmem (by simp)

theorem Run.append (hrun : Run files s events t) (hmore : Run files t more u) :
    Run files s (events ++ more) u := by
  induction hrun with
  | nil => exact hmore
  | cons hstep _ ih => exact .cons hstep (ih hmore)

theorem Ledger.run (h : Ledger workers files s) (hrun : Run files s events t) :
    Ledger workers files t := by
  induction hrun with
  | nil => exact h
  | cons hstep _ ih => exact ih (h.step hstep)

/-! ### Failed starts -/

/-- The message of a failed start stays, and where it is known no other start is tried. -/
theorem Step.startupError (hstep : Step files s event t) {message : String}
    (h : s.pool.startupError = some message) :
    t.pool.startupError = some message ∧ event.action ≠ .attempt := by
  cases hstep with
  | reuse stage idle =>
    have hpool := (Pool.take?_eq_some_iff.mp idle).2
    exact ⟨hpool.trans h, by simp⟩
  | @record worker file own first pool path stage recorded here =>
    have hpool := Pool.startupError_recordFailure s.pool own
    rw [Pool.recordFailure_fst h, recorded] at hpool
    exact ⟨hpool, by simp⟩
  | attempt _ failed => simp [h] at failed
  | _ => exact ⟨h, by simp⟩

theorem Run.startupError (hrun : Run files s events t) {message : String}
    (h : s.pool.startupError = some message) :
    t.pool.startupError = some message ∧ ∀ event ∈ events, event.action ≠ .attempt := by
  induction hrun with
  | nil => exact ⟨h, by simp⟩
  | cons hstep _ ih =>
    obtain ⟨hnext, hevent⟩ := hstep.startupError h
    obtain ⟨hlast, hevents⟩ := ih hnext
    exact ⟨hlast, List.forall_mem_cons.mpr ⟨hevent, hevents⟩⟩

theorem Step.reports_subset (hstep : Step files s event t) : s.reports ⊆ t.reports := by
  cases hstep <;> simp [move, finish]

theorem Run.reports_subset (hrun : Run files s events t) : s.reports ⊆ t.reports := by
  induction hrun with
  | nil => exact List.Subset.refl _
  | cons hstep _ ih => exact List.Subset.trans hstep.reports_subset ih

/-- A file that gets no toolchain is reported with the message on record. -/
theorem Step.refusal (hstep : Step files s event t) {message : String}
    (h : event.refusal? = some message) :
    t.pool.startupError = some message ∧
      ∃ path, files[event.file]? = some path ∧
        (event.file, Report.failure path message) ∈ t.reports := by
  cases hstep with
  | giveUp stage failed here =>
    obtain rfl := Option.some.inj h
    exact ⟨failed, _, here, by simp [finish]⟩
  | @record worker file own first pool path stage recorded here =>
    obtain rfl := Option.some.inj h
    have hpool := Pool.startupError_recordFailure s.pool own
    rw [recorded] at hpool
    exact ⟨hpool, path, here, by simp [finish]⟩
  | _ => simp [Event.refusal?] at h

theorem Run.refusal (hrun : Run files s events t) (hmem : event ∈ events) {message : String}
    (h : event.refusal? = some message) :
    t.pool.startupError = some message ∧
      ∃ path, files[event.file]? = some path ∧
        (event.file, Report.failure path message) ∈ t.reports := by
  induction hrun with
  | nil => simp at hmem
  | cons hstep hrun ih =>
    rcases List.mem_cons.mp hmem with rfl | hlater
    · obtain ⟨herror, path, hpath, hreport⟩ := hstep.refusal h
      exact ⟨(hrun.startupError herror).1, path, hpath, hrun.reports_subset hreport⟩
    · exact ih hlater

/-! ### The end of a run -/

/-- How many steps are left, at most. -/
def remaining (s : Schedule) : Nat := 6 * s.waiting.length + total left s.stages

theorem Step.remaining_lt (hstep : Step files s event t) : t.remaining < s.remaining := by
  unfold remaining
  cases hstep with
  | take stage waits =>
    have hwaits := List.length_erase_of_mem waits
    have hpos := List.length_pos_of_mem waits
    grind [total_set, move, left]
  | _ => grind [total_set, move, finish, left]

theorem Run.length_le (hrun : Run files s events t) :
    events.length + t.remaining ≤ s.remaining := by
  induction hrun with
  | nil => simp
  | cons hstep _ ih =>
    have hlt := hstep.remaining_lt
    rw [List.length_cons]
    omega

/-- A worker with a file can go on. -/
theorem Ledger.exists_step_of_works (h : Ledger workers files s) {worker : Nat} {stage : Stage}
    (hstage : s.stages[worker]? = some stage) (hne : stage ≠ .free) :
    ∃ event t, Step files s event t := by
  have hhere : ∀ {file}, stage.file? = some file → ∃ path, files[file]? = some path := by
    intro file hfile
    have hplaced := h.placed file
    have hset := total_set hstage .free (works file)
    have hworks : works file stage = 1 := by
      cases stage <;> simp_all [works, Stage.file?]
    have hlt : file < files.length := by
      by_contra hge
      have hfree : works file .free = 0 := rfl
      rw [if_neg hge] at hplaced
      omega
    exact ⟨_, List.getElem?_eq_getElem hlt⟩
  cases stage with
  | free => exact absurd rfl hne
  | seeking file =>
    rcases hidle : s.pool.take? with _ | ⟨toolchain, pool⟩
    · exact ⟨_, _, .lack hstage hidle⟩
    · exact ⟨_, _, .reuse hstage hidle⟩
  | lacking file =>
    rcases herror : s.pool.startupError with _ | message
    · exact ⟨_, _, .attempt hstage herror⟩
    · obtain ⟨path, hpath⟩ := hhere rfl
      exact ⟨_, _, .giveUp hstage herror hpath⟩
  | starting file => exact ⟨_, _, .start hstage⟩
  | refused file message =>
    obtain ⟨path, hpath⟩ := hhere rfl
    exact ⟨_, _, .record hstage rfl hpath⟩
  | weaving file toolchain =>
    obtain ⟨path, hpath⟩ := hhere rfl
    have hstep : Step files s ⟨worker, file, .weave .unchanged⟩ _ := .weave hstage hpath
    exact ⟨_, _, hstep⟩
  | returning file toolchain report => exact ⟨_, _, .giveBack hstage⟩

/-- As long as not all files are done, a worker can go on. -/
theorem Ledger.exists_step (h : Ledger workers files s) (hworkers : 0 < workers)
    (hdone : s.isDone = false) : ∃ event t, Step files s event t := by
  by_cases hall : ∀ stage ∈ s.stages, stage = .free
  · have hwaits : s.waiting ≠ [] := by
      intro hnil
      have hfree : s.stages.all (· = .free) = true := by simpa using hall
      simp [isDone, hnil, hfree] at hdone
    obtain ⟨file, rest, hwaiting⟩ := List.exists_cons_of_ne_nil hwaits
    have hlt : 0 < s.stages.length := by rw [h.staffed]; exact hworkers
    have hfirst : s.stages[0]? = some .free := by
      rw [List.getElem?_eq_getElem hlt, hall _ (List.getElem_mem hlt)]
    exact ⟨_, _, .take hfirst (hwaiting ▸ List.mem_cons_self)⟩
  · push Not at hall
    obtain ⟨stage, hmem, hne⟩ := hall
    obtain ⟨worker, hworker⟩ := List.getElem?_of_mem hmem
    exact h.exists_step_of_works hworker hne

theorem filterMap_range_getElem? {α : Type} (l : List α) :
    (List.range l.length).filterMap (l[·]?) = l := by
  have hmap : (List.range l.length).map (l[·]?) = l.map some := by
    apply List.ext_getElem <;> simp
  calc (List.range l.length).filterMap (l[·]?)
      = ((List.range l.length).map (l[·]?)).filterMap id := by rw [List.filterMap_map]; rfl
    _ = l := by rw [hmap, List.filterMap_map]; simp

/-- When all files are done, each of them has one report. -/
theorem Ledger.perm_of_isDone (h : Ledger workers files s) (hdone : s.isDone = true) :
    (s.reports.map Prod.fst).Perm (List.range files.length) := by
  obtain ⟨hwaiting, hfree⟩ : s.waiting = [] ∧ ∀ stage ∈ s.stages, stage = .free := by
    simpa [isDone] using hdone
  have hstages : s.stages = List.replicate s.stages.length .free :=
    List.eq_replicate_iff.mpr ⟨rfl, hfree⟩
  apply List.perm_iff_count.mpr
  intro file
  have hplaced := h.placed file
  have hnone : works file .free = 0 := rfl
  rw [hwaiting, hstages, total_replicate_free hnone] at hplaced
  rw [List.count_range]
  simpa using hplaced

theorem Ledger.exists_lookup (h : Ledger workers files s) (hdone : s.isDone = true) {file : Nat}
    (hfile : file < files.length) :
    ∃ report, s.reports.lookup file = some report ∧ (file, report) ∈ s.reports := by
  obtain ⟨report, hreport⟩ : ∃ report, (file, report) ∈ s.reports := by
    simpa using (h.perm_of_isDone hdone).mem_iff.mpr (List.mem_range.mpr hfile)
  rcases hfound : s.reports.lookup file with _ | found
  · have hnone := List.lookup_eq_none_iff.mp hfound _ hreport
    simp at hnone
  · obtain ⟨before, after, hsplit, -⟩ := List.lookup_eq_some_iff.mp hfound
    exact ⟨found, rfl, by simp [hsplit]⟩

/-- In order, the reports are those on the files. -/
theorem Ledger.map_path_inOrder (h : Ledger workers files s) (hdone : s.isDone = true) :
    (s.inOrder files.length).map Report.path = files := by
  have hlookup : ∀ file ∈ List.range files.length,
      (s.reports.lookup file).map Report.path = files[file]? := by
    intro file hfile
    obtain ⟨report, hfound, hmem⟩ := h.exists_lookup hdone (List.mem_range.mp hfile)
    rw [hfound, h.reported _ _ hmem]
    rfl
  calc (s.inOrder files.length).map Report.path
      = (List.range files.length).filterMap fun file =>
          (s.reports.lookup file).map Report.path := by rw [inOrder, List.map_filterMap]
    _ = (List.range files.length).filterMap (files[·]?) := List.filterMap_congr hlookup
    _ = files := filterMap_range_getElem? files

/-! ### Safety -/

theorem count_held (toolchain : Nat) (stages : List Stage) :
    (stages.filterMap Stage.toolchain?).count toolchain = total (uses toolchain) stages := by
  induction stages with
  | nil => rfl
  | cons stage stages ih =>
    simp only [total] at ih ⊢
    cases stage <;>
      simp [List.filterMap_cons, Stage.toolchain?, uses, ih, List.count_cons, Nat.add_comm]

theorem length_held_add_starting_le (stages : List Stage) :
    (stages.filterMap Stage.toolchain?).length + stages.countP Stage.isStarting ≤
      total engaged stages := by
  induction stages with
  | nil => exact Nat.le_refl _
  | cons stage stages ih =>
    simp only [total] at ih ⊢
    cases stage <;>
      simp [List.filterMap_cons, List.countP_cons, Stage.toolchain?, Stage.isStarting, engaged] <;>
      omega

/-- What holds after some events, with some workers and files. -/
structure Sound (workers : Nat) (files : List Path) (events : List Event) (s : Schedule) :
    Prop where
  /-- A toolchain that has been started is idle or with a worker, in one place only. -/
  toolchains : (s.pool.idle ++ s.held).Perm (List.range s.started)
  bounded : s.started + s.starting ≤ workers
  /-- The message of a failed start stays for good, and no other start is tried. -/
  settled : ∀ {message later t}, s.pool.startupError = some message → Run files s later t →
    t.pool.startupError = some message ∧ ∀ event ∈ later, event.action ≠ .attempt
  /-- A worker that reads the message gives up. -/
  heeded : ∀ {worker file message event t}, s.stages[worker]? = some (.lacking file) →
    s.pool.startupError = some message → Step files s event t → event.worker = worker →
    event.action = .giveUp message
  /-- The files that get no toolchain are all reported with this message. -/
  refused : ∀ {event message}, event ∈ events → event.refusal? = some message →
    s.pool.startupError = some message ∧ ∃ path, files[event.file]? = some path ∧
      (event.file, Report.failure path message) ∈ s.reports
  /-- Steps come to an end, and not before all files are done. -/
  finishes : events.length ≤ 6 * files.length ∧
    (0 < workers → s.isDone = false → ∃ event t, Step files s event t)
  /-- In the end each file has one report, and the reports in order are those on the files. -/
  reports : s.isDone = true → (s.reports.map Prod.fst).Perm (List.range files.length) ∧
    (s.inOrder files.length).map Report.path = files

/-- Every run of a number of workers is sound, whatever the order of their steps and the results of
their starts. -/
theorem sound_of_run (hrun : Run files (.initial workers files.length) events s) :
    Sound workers files events s := by
  have hledger := (ledger_initial workers files).run hrun
  have htoolchains : (s.pool.idle ++ s.held).Perm (List.range s.started) := by
    apply List.perm_iff_count.mpr
    intro toolchain
    rw [List.count_append, held, count_held, hledger.toolchains, List.count_range]
  refine ⟨htoolchains, ?_, ?_, ?_, ?_, ⟨?_, ?_⟩, ?_⟩
  · have hlength := htoolchains.length_eq
    rw [List.length_append, List.length_range] at hlength
    have hengaged := hledger.engaged
    have hheld := length_held_add_starting_le s.stages
    rw [held] at hlength
    rw [starting]
    omega
  · intro message later t herror hlater
    exact hlater.startupError herror
  · rintro worker file message event t hstage herror hstep rfl
    cases hstep with
    | giveUp stage failed =>
      rw [herror] at failed
      obtain rfl := Option.some.inj failed
      rfl
    | attempt stage failed => simp [herror] at failed
    | take stage | reuse stage | lack stage | start stage | refuse stage | record stage
    | weave stage | giveBack stage => simp [hstage] at stage
  · intro event message hmem hrefusal
    exact hrun.refusal hmem hrefusal
  · have hlength := hrun.length_le
    have hinitial : (Schedule.initial workers files.length).remaining = 6 * files.length := by
      have hfree : left .free = 0 := rfl
      simp [remaining, initial, total_replicate_free hfree]
    omega
  · exact hledger.exists_step
  · intro hdone
    exact ⟨hledger.perm_of_isDone hdone, hledger.map_path_inOrder hdone⟩

/-- Two workers set about a start at the same time, both starts fail, and the second worker is the
first to record that. -/
def refusals : List Event := [
  ⟨0, 0, .take⟩, ⟨1, 1, .take⟩, ⟨0, 0, .lack⟩, ⟨1, 1, .lack⟩, ⟨0, 0, .attempt⟩, ⟨1, 1, .attempt⟩,
  ⟨0, 0, .refuse "no memory"⟩, ⟨1, 1, .refuse "no node"⟩, ⟨1, 1, .record "no node"⟩,
  ⟨0, 0, .record "no node"⟩]

/-- The state after them: both files are reported with the message of the second worker. -/
def afterRefusals (a b : Path) : Schedule where
  pool := { startupError := some "no node" }
  stages := [.free, .free]
  waiting := []
  reports := [(0, .failure a "no node"), (1, .failure b "no node")]

theorem run_refusals (a b : Path) :
    Run [a, b] (.initial 2 2) refusals (afterRefusals a b) :=
  .cons (.take rfl (by decide)) <| .cons (.take rfl (by decide)) <|
  .cons (.lack rfl rfl) <| .cons (.lack rfl rfl) <|
  .cons (.attempt rfl rfl) <| .cons (.attempt rfl rfl) <|
  .cons (.refuse rfl) <| .cons (.refuse rfl) <|
  .cons (.record rfl rfl rfl) <| .cons (.record rfl rfl rfl) .nil

theorem sound_of_run_refusals :
    Run [.ofText "A.vue", .ofText "B.vue"] (.initial 2 2) refusals
      (afterRefusals (.ofText "A.vue") (.ofText "B.vue")) ∧
    Sound 2 [.ofText "A.vue", .ofText "B.vue"] refusals
      (afterRefusals (.ofText "A.vue") (.ofText "B.vue")) :=
  ⟨run_refusals .., sound_of_run (run_refusals ..)⟩

end SfcWeave.Schedule
