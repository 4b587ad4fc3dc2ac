import SfcWeave.Command.Pool
import SfcWeave.Command.Settings
import SfcWeave.Component.Support
import SfcWeave.Files.Glob
import SfcWeave.Node.Installation

/-!
# The command

`run` carries out the arguments of a command line: it loads the settings, finds the files, weaves
each of them, and reports the failures and the totals. The node process is a parameter.
-/

namespace SfcWeave

/-- The name and the version of the command. -/
def versionLine : String := "typed-vue-template 0.9.5"

/-- Why a command fails as a whole. -/
inductive RunError where
  | settings (error : SettingsError)
  | invalidGlob (error : GlobError)
  | missingPath (path : Path)
  | node (error : NodeError)
  | write (path : Path) (error : SystemError)

namespace RunError

/-- The wording of an error. -/
def message : RunError → String
  | settings error => error.message
  | invalidGlob error => "invalid glob pattern: " ++ error.message
  | missingPath path => "path does not exist: " ++ path.text
  | node error => error.message
  | write path error => writeFailure path error

end RunError

/-- A command under way, which may fail. -/
abbrev RunAction := ExceptT RunError (StateM Effects)

namespace Run

/-- The globs of files that are always left out. -/
def standardIgnores : List String := ["**/node_modules/**", "**/dist/**"]

/-- The files that are left out, by their paths relative to the workspace. -/
def ignoreSet (patterns : List String) : Except GlobError (String → Bool) := do
  let globs ← (patterns ++ standardIgnores).mapM Glob.ofText
  return fun path => globs.any fun glob => glob.covers path

/-- The result of a pure step. -/
def ofExcept {α ε : Type} (wrap : ε → RunError) (result : Except ε α) : RunAction α :=
  ExceptT.mk (pure (result.mapError wrap))

/-- Writes a file. -/
def writeFile (path : Path) (text : String) : RunAction Unit :=
  ExceptT.mk fun effects =>
    let (result, effects) := effects.write path text
    (result.mapError (.write path), effects)

/-- Writes the support modules into a directory. -/
def emitSupport (directory : Path) : RunAction Unit := do
  writeFile (directory.joinText "runtime.ts") Support.runtimeModule
  writeFile (directory.joinText "built-in.ts") Support.builtInModule

/-- Where the results go. -/
def destination (host : Host) (arguments : Arguments) : Destination :=
  if arguments.stdout then .stdout
  else
    match arguments.outDir with
    | some directory => .outDir (directory.absoluteIn host.workingDirectory)
    | none => .sibling

/-- Finds a program for the node process, and installs its script. -/
def installRunner (host : Host) (workspace : Path) : RunAction Runner :=
  ExceptT.mk fun effects =>
    let (result, tree) := (Runner.install host workspace).run effects.tree
    (result.mapError .node, { effects with tree })

/-- Shows the failures among reports. -/
def showFailures (workspace : Path) (reports : List Report) (effects : Effects) : Effects :=
  let failures := reports.filter fun report => report.outcome.isFailure
  (failures.filterMap fun report => report.render? workspace).foldl Effects.complain effects

/-- Weaves files, and reports on them. -/
def weaveAll {σ : Type} (job : Job) (parse : Script.Parser) (runner : Runner)
    (process : Child σ) (initial : σ) (files : List Path) : RunAction Summary :=
  ExceptT.mk fun effects =>
    let start (tree : FileTree) : Except String (Worker σ) :=
      (runner.start tree process initial).mapError NodeError.message
    let (reports, effects) :=
      job.weaveFiles parse (Worker.toolchain process) start files effects
    let summary := Summary.ofReports reports
    (.ok summary, (showFailures job.workspace reports effects).complain summary.display)

/-- Carries out the arguments of a command line. Every node process starts in the state
`initial`. -/
def run {σ : Type} (host : Host) (parse : Script.Parser) (process : Child σ) (initial : σ)
    (arguments : Arguments) : RunAction Summary := do
  let here (path : Path) : Path := path.absoluteIn host.workingDirectory
  match arguments.emitRuntime with
  | some directory =>
    emitSupport (here directory)
    return {}
  | none => pure ()
  let workspace := here arguments.workspacePath
  let tree := (← get).tree
  let settings ← ofExcept .settings (Settings.load tree workspace)
  let ignored ← ofExcept .invalidGlob (ignoreSet (settings.ignore ++ arguments.ignore))
  let roots := if arguments.paths.isEmpty then [workspace] else arguments.paths.map here
  let files ← ofExcept .missingPath (discover tree workspace ignored roots)
  if files.isEmpty then return {}
  let runner ← installRunner host workspace
  let job : Job := ⟨workspace, settings.weavingOptions arguments, destination host arguments⟩
  weaveAll job parse runner process initial files

end Run

end SfcWeave
