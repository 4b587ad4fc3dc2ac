import SfcWeave.Command.Pool

/-!
# Weaving in parallel

Several workers may weave the files of one command at the same time, with toolchains from one
pool. `Schedule.Step` is one atomic step of one worker: each operation on the pool is a step of its
own, so that the steps of other workers may come between any two of them. Toolchains are told
apart by their numbers, which count the starts that succeed.
-/

namespace SfcWeave

/-- How far a worker is with its file; files are given by their positions. -/
inductive Stage where
  /-- It has no file. -/
  | free
  /-- It is about to look for an idle toolchain. -/
  | seeking (file : Nat)
  /-- It has found none, and is about to look whether a start has failed. -/
  | lacking (file : Nat)
  /-- It is starting a toolchain. -/
  | starting (file : Nat)
  /-- Its start has failed, and it is about to record the message. -/
  | refused (file : Nat) (message : String)
  /-- It is weaving the file with a toolchain. -/
  | weaving (file toolchain : Nat)
  /-- It has woven the file, and is about to give the toolchain back. -/
  | returning (file toolchain : Nat) (report : Report)
deriving DecidableEq, Repr

namespace Stage

/-- The file that a worker in this stage has. -/
def file? : Stage → Option Nat
  | free => none
  | seeking file | lacking file | starting file => some file
  | refused file _ => some file
  | weaving file _ => some file
  | returning file _ _ => some file

/-- The toolchain that a worker in this stage has. -/
def toolchain? : Stage → Option Nat
  | weaving _ toolchain => some toolchain
  | returning _ toolchain _ => some toolchain
  | _ => none

/-- Is a worker in this stage starting a toolchain? -/
def isStarting : Stage → Bool
  | starting _ => true
  | _ => false

end Stage

/-- The state of files that are woven in parallel. -/
structure Schedule where
  /-- The toolchains that no worker has. -/
  pool : Pool Nat := {}
  /-- The stage of each worker. -/
  stages : List Stage
  /-- The files that no worker has taken. -/
  waiting : List Nat
  /-- How many toolchains have been started. -/
  started : Nat := 0
  /-- The reports so far, with the positions of their files. -/
  reports : List (Nat × Report) := []
deriving DecidableEq, Repr

namespace Schedule

/-- The state before the first step: all workers are free. -/
def initial (workers files : Nat) : Schedule where
  stages := List.replicate workers .free
  waiting := List.range files

/-- The state with another stage of one worker. -/
def move (schedule : Schedule) (worker : Nat) (stage : Stage) : Schedule :=
  { schedule with stages := schedule.stages.set worker stage }

/-- The state after a worker is done with a file. -/
def finish (schedule : Schedule) (worker file : Nat) (report : Report) : Schedule :=
  { schedule.move worker .free with reports := (file, report) :: schedule.reports }

/-- The toolchains that workers have. -/
def held (schedule : Schedule) : List Nat := schedule.stages.filterMap Stage.toolchain?

/-- How many workers are starting a toolchain. -/
def starting (schedule : Schedule) : Nat := schedule.stages.countP Stage.isStarting

/-- Are all files done? -/
def isDone (schedule : Schedule) : Bool :=
  schedule.waiting.isEmpty && schedule.stages.all (· = .free)

/-- The reports in the order of their files. -/
def inOrder (schedule : Schedule) (files : Nat) : List Report :=
  (List.range files).filterMap fun file => schedule.reports.lookup file

/-- What a worker does in a step. -/
inductive Action where
  /-- It takes the file. -/
  | take
  /-- It takes an idle toolchain. -/
  | reuse
  /-- It finds no idle toolchain. -/
  | lack
  /-- It learns that a start has failed, and reports that. -/
  | giveUp (message : String)
  /-- It learns that no start has failed, and sets about one. -/
  | attempt
  /-- Its start succeeds. -/
  | start
  /-- Its start fails. -/
  | refuse (message : String)
  /-- It records that its start has failed, and reports the failure on record. -/
  | record (message : String)
  /-- It weaves the file. -/
  | weave (outcome : Outcome)
  /-- It gives its toolchain back, and reports. -/
  | giveBack
deriving DecidableEq, Repr

/-- A step as it is seen from outside: which worker does what with which file. -/
structure Event where
  worker : Nat
  file : Nat
  action : Action
deriving DecidableEq, Repr

/-- The message that the file is reported with when it gets no toolchain. -/
def Event.refusal? (event : Event) : Option String :=
  match event.action with
  | .giveUp message => some message
  | .record message => some message
  | _ => none

/-- One atomic step of one worker. Any worker may come next, any file that waits may be taken, and
any start may fail with any message. -/
inductive Step (files : List Path) : Schedule → Event → Schedule → Prop where
  | take {s worker file} (stage : s.stages[worker]? = some .free) (waits : file ∈ s.waiting) :
    Step files s ⟨worker, file, .take⟩
      { s.move worker (.seeking file) with waiting := s.waiting.erase file }
  | reuse {s worker file toolchain pool} (stage : s.stages[worker]? = some (.seeking file))
    (idle : s.pool.take? = some (toolchain, pool)) :
    Step files s ⟨worker, file, .reuse⟩ { s.move worker (.weaving file toolchain) with pool }
  | lack {s worker file} (stage : s.stages[worker]? = some (.seeking file))
    (idle : s.pool.take? = none) :
    Step files s ⟨worker, file, .lack⟩ (s.move worker (.lacking file))
  | giveUp {s worker file message path} (stage : s.stages[worker]? = some (.lacking file))
    (failed : s.pool.startupError = some message) (here : files[file]? = some path) :
    Step files s ⟨worker, file, .giveUp message⟩
      (s.finish worker file (.failure path message))
  | attempt {s worker file} (stage : s.stages[worker]? = some (.lacking file))
    (failed : s.pool.startupError = none) :
    Step files s ⟨worker, file, .attempt⟩ (s.move worker (.starting file))
  | start {s worker file} (stage : s.stages[worker]? = some (.starting file)) :
    Step files s ⟨worker, file, .start⟩
      { s.move worker (.weaving file s.started) with started := s.started + 1 }
  | refuse {s worker file message} (stage : s.stages[worker]? = some (.starting file)) :
    Step files s ⟨worker, file, .refuse message⟩ (s.move worker (.refused file message))
  | record {s worker file message first pool path}
    (stage : s.stages[worker]? = some (.refused file message))
    (recorded : s.pool.recordFailure message = (first, pool)) (here : files[file]? = some path) :
    Step files s ⟨worker, file, .record first⟩
      { s.finish worker file (.failure path first) with pool }
  | weave {s worker file toolchain path outcome}
    (stage : s.stages[worker]? = some (.weaving file toolchain)) (here : files[file]? = some path) :
    Step files s ⟨worker, file, .weave outcome⟩
      (s.move worker (.returning file toolchain ⟨path, outcome⟩))
  | giveBack {s worker file toolchain report}
    (stage : s.stages[worker]? = some (.returning file toolchain report)) :
    Step files s ⟨worker, file, .giveBack⟩
      { s.finish worker file report with pool := s.pool.giveBack toolchain }

/-- Steps one after another, in any order that the workers come in. -/
inductive Run (files : List Path) : Schedule → List Event → Schedule → Prop where
  | nil {s} : Run files s [] s
  | cons {s event t events u} (step : Step files s event t) (run : Run files t events u) :
    Run files s (event :: events) u

end Schedule

end SfcWeave
