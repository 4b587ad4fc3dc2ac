import SfcWeave.Node.Message

/-!
# A worker

A worker is a node process that answers requests one at a time. The process is seen through its
standard streams only (`Child`), so that it may do anything. A worker numbers its requests and
takes one line for each; a line with another number is no answer.
-/

namespace SfcWeave

/-- What the next read of the output of a process gives. -/
inductive Output where
  /-- A line, without the line feed. -/
  | line (text : String)
  /-- A line that is not UTF-8. -/
  | garbled
  /-- The end: the process has ended, with an exit code unless it was killed. -/
  | ended (code : Option Int) (diagnostics : String)
deriving DecidableEq, Repr

/-- A process with states `σ`, seen through its standard streams. -/
structure Child (σ : Type) where
  /-- Gives a line to the process; `false` means that it no longer reads. -/
  receive : String → σ → Bool × σ
  /-- The next line of the output of the process. -/
  read : σ → Output × σ

/-- A process that takes requests. -/
structure Worker (σ : Type) where
  process : σ
  /-- The number of the next request. -/
  nextId : Nat := 1
  /-- Have the diagnostics of the process been reported? -/
  diagnosed : Bool := false

/-- A dealing with a worker that may fail. -/
abbrev WorkerAction (σ : Type) := ExceptT NodeError (StateM (Worker σ))

namespace Worker

variable {σ : Type}

/-- The result of a pure step. -/
def ofExcept {α : Type} (result : Except NodeError α) : WorkerAction σ α :=
  ExceptT.mk (pure result)

/-- A line without the carriage return at its end. -/
def dropReturn (line : String) : String :=
  if line.toList.getLast? = some '\x0d' then String.ofList line.toList.dropLast else line

/-- Takes the next line of the output. The diagnostics of the process are reported once. -/
def readLine (process : Child σ) : WorkerAction σ String := do
  let output ← modifyGet fun worker =>
    let (output, next) := process.read worker.process
    (output, { worker with process := next })
  match output with
  | .line text => return dropReturn text
  | .garbled => throw (.protocol ("failed to read node output: " ++ SystemError.notText.message))
  | .ended code diagnostics => do
    let worker ← get
    set { worker with diagnosed := true }
    throw (.processFailed (code.getD (-1)) (if worker.diagnosed then "" else diagnostics))

/-- Gives a line to the process. -/
def writeLine (process : Child σ) (line : String) : WorkerAction σ Unit := do
  let received ← modifyGet fun worker =>
    let (received, next) := process.receive line worker.process
    (received, { worker with process := next })
  unless received do
    throw (.protocol ("failed to write to node stdin: " ++ SystemError.brokenPipe.message))

/-- Waits for the first message of the process. -/
def awaitReady (process : Child σ) : WorkerAction σ Unit := do
  let line ← readLine process
  let ready ← ofExcept (Ready.ofLine line)
  unless ready.ready do throw (.protocol ("unexpected node ready response: " ++ line))

/-- The number for the next request. -/
def takeId : WorkerAction σ Nat :=
  modifyGet fun worker => (worker.nextId, { worker with nextId := worker.nextId + 1 })

/-- The response in a line, which must have the number of the request. -/
def responseTo (id : Nat) (line : String) : Except NodeError Response := do
  let response ← Response.ofLine line
  match response.id with
  | some got =>
    if got = id then return response
    else throw (.protocol ("expected response " ++ toString id ++ ", got " ++ toString got))
  | none => throw (.protocol (response.error.getD ("missing response id: " ++ line)))

/-- Asks for something, and takes the answer. -/
def request (process : Child σ) (kind : RequestKind) (source : String) :
    WorkerAction σ Response := do
  let id ← takeId
  writeLine process (Request.print ⟨id, kind, source⟩)
  let line ← readLine process
  ofExcept (responseTo id line)

/-- Has a template compiled. -/
def compile (process : Child σ) (template : String) : WorkerAction σ TemplateOutput := do
  ofExcept (← request process .compile template).toTemplateOutput

/-- Has an expression lowered to the older dialect. -/
def transpile (process : Child σ) (code : String) : WorkerAction σ String := do
  ofExcept (← request process .transpile code).toCode

/-- The toolchain that a worker serves. -/
def toolchain (process : Child σ) : Toolchain (Worker σ) where
  compile template worker :=
    let (result, worker) := (compile process template).run worker
    (result.mapError NodeError.toToolchainError, worker)
  transpile code worker :=
    let (result, worker) := (transpile process code).run worker
    (result.mapError NodeError.toToolchainError, worker)

end Worker

end SfcWeave
