import SfcWeave.Files.Tree
import SfcWeave.Node.RunnerScript
import SfcWeave.Node.Worker

/-!
# Installing the runner

Before a node process can be started, its program is looked up and the runner script is put into
the cache directory, unless an identical copy is there.
-/

namespace SfcWeave

/-- What the system offers to a program. -/
structure Host where
  workingDirectory : Path
  /-- The node program that is found on the search path. -/
  nodeOnSearchPath : Option Path := none
  /-- The directory for cached files of the user. -/
  cacheRoot : Option Path := none

/-- All that is needed to start a node process. -/
structure Runner where
  node : Path
  workspace : Path
  script : Path
deriving DecidableEq, Repr

/-- A dealing with files on behalf of the node process. -/
abbrev InstallAction := ExceptT NodeError (StateM FileTree)

namespace Runner

/-- The node program for a workspace: its own one goes first. -/
def findNode (tree : FileTree) (host : Host) (workspace : Path) : Option Path :=
  let own := (workspace.joinText "node_modules/.bin").joinText "node"
  if tree.contains own then some own else host.nodeOnSearchPath

/-- Changes files, with an error that says what for. -/
def change (purpose : String) (action : FileAction Unit) : InstallAction Unit :=
  ExceptT.mk do
    let result ← action.run
    return result.mapError fun error => .scriptInstall (purpose ++ error.message)

/-- Puts the runner script into a directory. -/
def installScript (directory : Path) : InstallAction Path := do
  change "failed to create cache dir: " (FileAction.makeDirectories directory.pieces.reverse)
  let path := directory.joinText runnerScriptName
  match (← get).read path with
  | .ok (.text text) => if text = runnerScript then return path
  | _ => pure ()
  change "failed to write runner script: "
    (FileAction.attempt fun tree => tree.writeText path runnerScript)
  return path

/-- Finds the program for a workspace and installs the script. -/
def install (host : Host) (workspace : Path) : InstallAction Runner := do
  match findNode (← get) host workspace with
  | none => throw (.notFound workspace)
  | some node =>
    match host.cacheRoot with
    | none => throw (.scriptInstall "could not determine cache directory")
    | some root => do
      let script ← installScript (root.joinText "typed-vue-template")
      return ⟨node, workspace, script⟩

/-- Can the process be started? It runs in the workspace. -/
def canStart (runner : Runner) (tree : FileTree) : Except NodeError Unit :=
  match tree.locate runner.workspace, tree.locate runner.node with
  | .error error, _ => .error (.spawnFailed error)
  | .ok (_, .file _), _ => .error (.spawnFailed .notDirectory)
  | _, .error error => .error (.spawnFailed error)
  | _, .ok (_, .directory) => .error (.spawnFailed .denied)
  | .ok (_, .directory), .ok (_, .file _) => .ok ()

/-- Starts a worker on a new process, and waits until it is ready. -/
def start {σ : Type} (runner : Runner) (tree : FileTree) (process : Child σ) (initial : σ) :
    Except NodeError (Worker σ) :=
  match runner.canStart tree with
  | .error error => .error error
  | .ok () =>
    match (Worker.awaitReady process).run ⟨initial, 1, false⟩ with
    | (.ok (), worker) => .ok worker
    | (.error error, _) => .error error

end Runner

end SfcWeave
