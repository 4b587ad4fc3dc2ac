import SfcWeave.Command.Effects
import SfcWeave.Command.Report
import SfcWeave.Files.Discovery

/-!
# Weaving one file

A file is read, woven, and its result is delivered: next to it, below another directory, or on the
standard output. A file that is left as it is has no result.
-/

namespace SfcWeave

/-- Where results go. -/
inductive Destination where
  /-- To a file next to the source. -/
  | sibling
  /-- Below a directory, at the place that the source has in the workspace. -/
  | outDir (directory : Path)
  | stdout
deriving DecidableEq, Repr

/-- What is common to all files of a command. -/
structure Job where
  workspace : Path
  options : WeavingOptions := {}
  destination : Destination := .sibling
deriving Repr

namespace Job

/-- The file next to a source for its result. -/
def siblingOf (path : Path) : Path :=
  path.withFileName (((path.fileName?).map Path.stem).getD "component" ++ wovenSuffix)

/-- The file for the result of a source; there is none when it is printed. -/
def target? (job : Job) (path : Path) : Option Path :=
  match job.destination with
  | .sibling => some (siblingOf path)
  | .outDir directory => some (directory.join (path.relativeTo job.workspace))
  | .stdout => none

/-- Delivers the result of a source. -/
def deliver (job : Job) (path : Path) (code : String) (effects : Effects) : Outcome × Effects :=
  match job.target? path with
  | none => (.printed, effects.print code)
  | some target =>
    match effects.write target code with
    | (.ok (), effects) => (.written target, effects)
    | (.error error, effects) => (.failed (writeFailure target error) none, effects)

variable {σ : Type}

/-- Weaves a file with a toolchain in a given state. -/
def weaveFile (job : Job) (parse : Script.Parser) (toolchain : Toolchain σ) (path : Path)
    (state : σ) (effects : Effects) : Report × σ × Effects :=
  match effects.tree.readText path with
  | .error error => (.failure path ("failed to read file: " ++ error.message), state, effects)
  | .ok source =>
    let (result, session) :=
      (weave parse toolchain job.options path.text source).run { toolchain := state }
    let effects := effects.warn session.warnings.reverse
    let (outcome, effects) :=
      match result with
      | .error error => (Outcome.ofError source error, effects)
      | .ok woven =>
        if woven.injection.isInjected then job.deliver path woven.code effects
        else (Outcome.ofUninjected woven.injection, effects)
    (⟨path, outcome⟩, session.toolchain, effects)

end Job

end SfcWeave
