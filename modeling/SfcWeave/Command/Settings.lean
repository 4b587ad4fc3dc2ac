import SfcWeave.Command.Arguments
import SfcWeave.Files.Tree
import SfcWeave.Json.Record
import SfcWeave.Weaving.Options

/-!
# Settings

A workspace may have a file with settings. What is said on the command line goes before them.
-/

namespace SfcWeave

/-- The settings of a workspace. -/
structure Settings where
  runtimeModule : Option String := none
  builtInModule : Option String := none
  /-- Globs of the files to leave out. -/
  ignore : List String := []
deriving DecidableEq, Repr

/-- Why settings cannot be used. -/
inductive SettingsError where
  | unreadable (path : Path) (error : SystemError)
  | invalid (path : Path) (error : Json.Error)

namespace SettingsError

/-- The wording of an error. -/
def message : SettingsError → String
  | unreadable path error => "failed to read " ++ path.text ++ ": " ++ error.message
  | invalid path error => "invalid " ++ path.text ++ ": " ++ error.message

end SettingsError

namespace Settings

/-- The name of the file with the settings. -/
def fileName : String := "typed-vue-template.json"

open Json.Reader in
/-- How settings are written. -/
def recordType : Json.RecordType Settings where
  name := "ProjectConfig"
  members := [
    { name := "runtimeModule"
      read := fun s => return { s with runtimeModule := ← nullable string } },
    { name := "builtInModule"
      read := fun s => return { s with builtInModule := ← nullable string } },
    { name := "ignore", elidable := true
      read := fun s => return { s with ignore := ← list string } }]
  empty := {}
  closed := true

/-- The settings of a workspace; without a file all of them are missing. -/
def load (tree : FileTree) (workspace : Path) : Except SettingsError Settings :=
  let path := workspace.joinText fileName
  if tree.contains path then
    match tree.readText path with
    | .error error => .error (.unreadable path error)
    | .ok text => (Json.read recordType.read text).mapError (.invalid path)
  else .ok {}

/-- The options of weaving: from the command line, else from the settings, else the defaults. -/
def weavingOptions (settings : Settings) (arguments : Arguments) : WeavingOptions where
  runtimeModule :=
    (arguments.runtimeModule.or settings.runtimeModule).getD defaultRuntimeModule
  builtInModule :=
    (arguments.builtInModule.or settings.builtInModule).getD defaultBuiltInModule

end Settings

end SfcWeave
