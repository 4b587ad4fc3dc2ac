import SfcWeave.Command.Delivery

/-!
# A pool of toolchains

A toolchain is started when a file needs one and none is idle, and is given back after the file.
Once a start has failed, no other one is tried: all files that find no idle toolchain then fail
with the same message.
-/

namespace SfcWeave

/-- The toolchains that no file is using, and the message of the first failed start. -/
structure Pool (σ : Type) where
  idle : List σ := []
  startupError : Option String := none
deriving DecidableEq, Repr

namespace Pool

variable {σ : Type}

/-- Takes an idle toolchain. -/
def take? (pool : Pool σ) : Option (σ × Pool σ) :=
  match pool.idle with
  | [] => none
  | state :: idle => some (state, { pool with idle })

theorem take?_eq_some_iff {pool rest : Pool σ} {state : σ} :
    pool.take? = some (state, rest) ↔
      pool.idle = state :: rest.idle ∧ rest.startupError = pool.startupError := by
  obtain ⟨idle, error⟩ := pool
  obtain ⟨idle', error'⟩ := rest
  cases idle with
  | nil => simp [take?]
  | cons first others =>
    simp only [take?, Option.some.injEq, Prod.mk.injEq, mk.injEq, List.cons.injEq]
    constructor
    · rintro ⟨rfl, rfl, rfl⟩
      exact ⟨⟨rfl, rfl⟩, rfl⟩
    · rintro ⟨⟨rfl, rfl⟩, rfl⟩
      exact ⟨rfl, rfl, rfl⟩

theorem take?_eq_none_iff {pool : Pool σ} : pool.take? = none ↔ pool.idle = [] := by
  obtain ⟨idle, error⟩ := pool
  cases idle <;> simp [take?]

/-- Gives a toolchain back. -/
def giveBack (pool : Pool σ) (state : σ) : Pool σ := { pool with idle := state :: pool.idle }

/-- Records a failed start. The message of the first one stays, and is the one to report. -/
def recordFailure (pool : Pool σ) (message : String) : String × Pool σ :=
  match pool.startupError with
  | some first => (first, pool)
  | none => (message, { pool with startupError := some message })

@[simp] theorem idle_recordFailure (pool : Pool σ) (message : String) :
    (pool.recordFailure message).2.idle = pool.idle := by
  unfold recordFailure
  split <;> rfl

@[simp] theorem startupError_recordFailure (pool : Pool σ) (message : String) :
    (pool.recordFailure message).2.startupError = some (pool.recordFailure message).1 := by
  unfold recordFailure
  split
  · assumption
  · rfl

/-- A message on record is the one to report. -/
theorem recordFailure_fst {pool : Pool σ} {first : String} (h : pool.startupError = some first)
    (message : String) : (pool.recordFailure message).1 = first := by
  simp [recordFailure, h]

/-- Takes an idle toolchain, or else starts one. -/
def acquire (pool : Pool σ) (start : Unit → Except String σ) : Except String σ × Pool σ :=
  match pool.take? with
  | some (state, pool) => (.ok state, pool)
  | none =>
    match pool.startupError with
    | some message => (.error message, pool)
    | none =>
      match start () with
      | .ok state => (.ok state, pool)
      | .error message =>
        let (message, pool) := pool.recordFailure message
        (.error message, pool)

end Pool

namespace Job

variable {σ : Type}

/-- Weaves a file with a toolchain of the pool. -/
def weavePooled (job : Job) (parse : Script.Parser) (toolchain : Toolchain σ)
    (start : FileTree → Except String σ) (path : Path) : StateM (Pool σ × Effects) Report :=
  fun (pool, effects) =>
    match pool.acquire fun () => start effects.tree with
    | (.error message, pool) => (.failure path message, pool, effects)
    | (.ok state, pool) =>
      let (report, state, effects) := job.weaveFile parse toolchain path state effects
      (report, pool.giveBack state, effects)

/-- Weaves files, in order. -/
def weaveFiles (job : Job) (parse : Script.Parser) (toolchain : Toolchain σ)
    (start : FileTree → Except String σ) (paths : List Path) (effects : Effects) :
    List Report × Effects :=
  let (reports, _, effects) :=
    (paths.mapM (job.weavePooled parse toolchain start)).run ({}, effects)
  (reports, effects)

end Job

end SfcWeave
