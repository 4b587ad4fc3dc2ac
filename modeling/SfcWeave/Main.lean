import SfcWeave.Command.Run
import SfcWeave.Script.Parser

/-!
# The program

Reads the files that a command may need, carries the command out on them, and makes its effects
real. This program has no means of starting another one: the node process counts as ended.
-/

namespace SfcWeave.Main

/-- Where a path leads when no file on the way is a link. -/
def locationOf (path : Path) : Location :=
  path.components.foldl (fun location component =>
    match component with
    | .name name => location ++ [name]
    | .parent => location.dropLast
    | _ => location) []

/-- The text of the path to a place. -/
def textOf (location : Location) : String := "/" ++ "/".intercalate location

/-- May a command read the file at a place? It reads components, settings, the runner script, and
what is named to it. -/
def mayRead (named : List Location) (location : Location) : Bool :=
  let name := location.getLast?.getD ""
  named.contains location || endsWith name componentSuffix || name = Settings.fileName ||
    name = runnerScriptName

/-- The entries at a place and below it. Links are left out. Files that no command reads count as
empty. -/
partial def load (named : List Location) (location : Location) :
    IO (List (Location × Entry)) := do
  let path := (← IO.currentDir) / textOf location
  if !(← path.pathExists) then return []
  match (← path.symlinkMetadata).type with
  | .dir =>
    let below ← (← path.readDir).toList.mapM fun entry => load named (location ++ [entry.fileName])
    return (location, .directory) :: below.flatten
  | .file =>
    let bytes ← if mayRead named location then IO.FS.readBinFile path else pure .empty
    return [(location, .file (.ofBytes bytes.toList))]
  | _ => return []

/-- The places above a place, from the root on. -/
def above (location : Location) : List Location :=
  (List.range location.length).map fun count => location.take count

/-- The tree with all that is at or below the given places; `named` are those of files to read. -/
def loadAll (named locations : List Location) : IO FileTree := do
  let outermost := locations.filter fun location =>
    !locations.any fun other => other.isPrefixOf location && other ≠ location
  let loaded ← outermost.eraseDups.mapM (load named)
  let directories := (outermost.flatMap above).eraseDups.map fun place => (place, Entry.directory)
  return ⟨directories ++ loaded.flatten⟩

/-- Makes the directories and files of a tree that were not in the tree before. -/
def store (before after : FileTree) : IO Unit := do
  for (location, entry) in after.entries.reverse do
    if before.find? location ≠ some entry then
      match entry with
      | .directory => IO.FS.createDirAll (textOf location)
      | .file (.text text) => IO.FS.writeFile (textOf location) text
      | .file (.binary bytes) => IO.FS.writeBinFile (textOf location) ⟨bytes.toArray⟩

/-- The first node program on the search path. -/
def findNode : IO (Option Path) := do
  let directories := (Text.splitOn ':' ((← IO.getEnv "PATH").getD "").toList).map String.ofList
  let candidates := directories.map fun directory => (Path.ofText directory).joinText "node"
  candidates.findM? fun path => return ← ((← IO.currentDir) / path.text).pathExists

/-- The directory for cached files of the user. -/
def findCacheRoot : IO (Option Path) := do
  match ← IO.getEnv "XDG_CACHE_HOME", ← IO.getEnv "HOME" with
  | some root, _ => return some (.ofText root)
  | none, some home => return some ((Path.ofText home).joinText ".cache")
  | none, none => return none

/-- What the system offers. -/
def findHost : IO Host := do
  return {
    workingDirectory := .ofText (← IO.currentDir).toString
    nodeOnSearchPath := ← findNode
    cacheRoot := ← findCacheRoot }

/-- The paths that a command may read or write. -/
def pathsOf (host : Host) (arguments : Arguments) : List Path :=
  let named := arguments.workspacePath :: arguments.paths ++ arguments.outDir.toList ++
    arguments.emitRuntime.toList
  named.map (Path.absoluteIn · host.workingDirectory) ++ host.nodeOnSearchPath.toList ++
    (host.cacheRoot.map fun root => root.joinText "typed-vue-template").toList

/-- A process that has ended. -/
def endedProcess : Child Unit where
  receive _ state := (false, state)
  read state := (.ended none "no other program can be started", state)

/-- The wording for arguments that are not carried out. -/
def usageMessage : UsageError → String
  | .displayHelp => "usage: typed-vue-template [options] [paths]"
  | .displayVersion => versionLine
  | .unknownArgument => "error: unknown argument"
  | .invalidValue => "error: a value is required"
  | .argumentConflict => "error: conflicting arguments"
  | .tooManyValues => "error: unexpected value for a switch"

/-- Shows why arguments are not carried out. -/
def showUsage (error : UsageError) : IO UInt32 := do
  match error with
  | .displayHelp | .displayVersion => do
    IO.println (usageMessage error)
    return 0
  | _ => do
    IO.eprintln (usageMessage error)
    return 2

/-- Carries arguments out. -/
def carryOut (arguments : Arguments) : IO UInt32 := do
  let host ← findHost
  let named := arguments.paths.map fun path => locationOf (path.absoluteIn host.workingDirectory)
  let tree ← loadAll named ((pathsOf host arguments).map locationOf)
  let (result, effects) :=
    (Run.run host Script.parse endedProcess () arguments).run { tree }
  store tree effects.tree
  IO.print effects.printed
  IO.eprint effects.complaints
  match result with
  | .ok summary => return if summary.failed = 0 then 0 else 1
  | .error error => do
    IO.eprintln ("Error: " ++ error.message)
    return 1

end SfcWeave.Main

/-- The program. -/
def main (texts : List String) : IO UInt32 := do
  match SfcWeave.Arguments.ofList texts with
  | .error error => SfcWeave.Main.showUsage error
  | .ok arguments => SfcWeave.Main.carryOut arguments
