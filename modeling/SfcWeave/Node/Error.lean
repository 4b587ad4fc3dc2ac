import SfcWeave.Files.Content
import SfcWeave.Files.Path
import SfcWeave.Weaving.Toolchain

/-!
# Why the node process does not answer
-/

namespace SfcWeave

/-- Why the node process cannot be started or gives no answer. -/
inductive NodeError where
  | spawnFailed (error : SystemError)
  /-- The process has ended. -/
  | processFailed (code : Int) (diagnostics : String)
  /-- There is no program to start for the workspace. -/
  | notFound (workspace : Path)
  /-- The script to run cannot be installed. -/
  | scriptInstall (reason : String)
  /-- A message is not the one that was due. -/
  | protocol (reason : String)
  /-- A line is no message. -/
  | unreadable (reason : String)
  /-- The process answers with a failure of its own. -/
  | remote (message : String)
deriving DecidableEq, Repr

namespace NodeError

/-- The wording of an error. -/
def message : NodeError → String
  | spawnFailed error => "failed to spawn node: " ++ error.message
  | processFailed code diagnostics =>
    "node exited with code " ++ toString code ++ ": " ++ diagnostics
  | notFound workspace =>
    "node binary not found (looked in " ++ workspace.text ++ "/node_modules/.bin and PATH)"
  | scriptInstall reason => "failed to install runner script: " ++ reason
  | protocol reason => "node runner protocol error: " ++ reason
  | unreadable reason => "failed to parse node response: " ++ reason
  | remote message => message

/-- The error as a failure of a toolchain. -/
def toToolchainError (error : NodeError) : ToolchainError :=
  ⟨"node toolchain failed", [error.message]⟩

end NodeError

end SfcWeave
