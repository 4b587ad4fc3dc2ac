import SfcWeave.Files.Path
import SfcWeave.Text.Search

/-!
# Command-line arguments

Arguments are read from left to right. A long option takes its value after an equals sign or from
the next argument, unless that one starts with a dash; after `--` every argument is a path. An
option whose value has been read is settled when the next option or path comes, so that an unknown
option is reported before what is wrong with the option in front of it.
-/

namespace SfcWeave

/-- What is asked for on the command line. -/
structure Arguments where
  /-- The files and directories to weave; the workspace when there are none. -/
  paths : List Path := []
  /-- The directory for discovery, settings and the node process. -/
  workspace : Option Path := none
  /-- The directory for the results. -/
  outDir : Option Path := none
  /-- Are the results printed? -/
  stdout : Bool := false
  /-- Globs of the files to leave out. -/
  ignore : List String := []
  runtimeModule : Option String := none
  builtInModule : Option String := none
  /-- Where to write the support modules, and nothing else. -/
  emitRuntime : Option Path := none
  verbose : Bool := false
deriving DecidableEq, Repr

/-- Why arguments are not carried out. -/
inductive UsageError where
  | displayHelp
  | displayVersion
  | unknownArgument
  /-- A value is missing. -/
  | invalidValue
  /-- An option is repeated, or excludes another one. -/
  | argumentConflict
  /-- A switch has a value. -/
  | tooManyValues
deriving DecidableEq, Repr

/-- An option with a value. -/
inductive ValueOption where
  | workspace
  | outDir
  | ignore
  | runtimeModule
  | builtInModule
  | emitRuntime
deriving DecidableEq, Repr

/-- An option without a value. -/
inductive Switch where
  | stdout
  | verbose
  | help
  | version
deriving DecidableEq, Repr

/-- What a name stands for. -/
inductive OptionName where
  | value (option : ValueOption)
  | switch (switch : Switch)
deriving DecidableEq, Repr

namespace OptionName

/-- The option with a long name. -/
def ofLong? : String → Option OptionName
  | "workspace" => some (.value .workspace)
  | "out-dir" => some (.value .outDir)
  | "ignore" => some (.value .ignore)
  | "runtime-module" => some (.value .runtimeModule)
  | "built-in-module" => some (.value .builtInModule)
  | "emit-runtime" => some (.value .emitRuntime)
  | "stdout" => some (.switch .stdout)
  | "verbose" => some (.switch .verbose)
  | "help" => some (.switch .help)
  | "version" => some (.switch .version)
  | _ => none

/-- The switch with a short name. -/
def ofShort? : Char → Option Switch
  | 'v' => some .verbose
  | 'h' => some .help
  | 'V' => some .version
  | _ => none

end OptionName

namespace Arguments

/-- The directory of the workspace: the working directory unless another is named. -/
def workspacePath (arguments : Arguments) : Path := arguments.workspace.getD (.ofText ".")

/-- Gives an option its value; only `--ignore` may come again. -/
def setValue (arguments : Arguments) (option : ValueOption) (value : String) :
    Except UsageError Arguments :=
  let once {α : Type} (old : Option α) (changed : Arguments) : Except UsageError Arguments :=
    if old.isSome then .error .argumentConflict else .ok changed
  match option with
  | .workspace => once arguments.workspace { arguments with workspace := some (.ofText value) }
  | .outDir => once arguments.outDir { arguments with outDir := some (.ofText value) }
  | .ignore => .ok { arguments with ignore := arguments.ignore ++ [value] }
  | .runtimeModule => once arguments.runtimeModule { arguments with runtimeModule := some value }
  | .builtInModule => once arguments.builtInModule { arguments with builtInModule := some value }
  | .emitRuntime =>
    once arguments.emitRuntime { arguments with emitRuntime := some (.ofText value) }

/-- Turns a switch on, once. -/
def turnOn (arguments : Arguments) : Switch → Except UsageError Arguments
  | .stdout =>
    if arguments.stdout then .error .argumentConflict else .ok { arguments with stdout := true }
  | .verbose =>
    if arguments.verbose then .error .argumentConflict else .ok { arguments with verbose := true }
  | .help => .error .displayHelp
  | .version => .error .displayVersion

/-- Adds a path. -/
def addPath (arguments : Arguments) (path : String) : Arguments :=
  { arguments with paths := arguments.paths ++ [.ofText path] }

/-- Arguments, with an option that is not settled yet and its value, if that has been read. -/
structure Reading where
  arguments : Arguments := {}
  pending : Option (ValueOption × Option String) := none

namespace Reading

/-- Settles the pending option. -/
def settle (reading : Reading) : Except UsageError Arguments :=
  match reading.pending with
  | none => .ok reading.arguments
  | some (_, none) => .error .invalidValue
  | some (option, some value) => reading.arguments.setValue option value

/-- Reads a long option, without its dashes. -/
def long (reading : Reading) (text : List Char) : Except UsageError Reading :=
  let (name, value?) :=
    match Text.splitOnce? ['='] text with
    | some (name, value) => (name, some (String.ofList value))
    | none => (text, none)
  match OptionName.ofLong? (String.ofList name), value? with
  | none, _ => .error .unknownArgument
  | some (.switch _), some _ => .error .tooManyValues
  | some (.switch switch), none => do return ⟨← (← reading.settle).turnOn switch, none⟩
  | some (.value option), some value => do
    return ⟨← (← reading.settle).setValue option value, none⟩
  | some (.value option), none => do return ⟨← reading.settle, some (option, none)⟩

/-- Reads short switches, without their dash. -/
def short (reading : Reading) : List Char → Except UsageError Reading
  | [] => .ok reading
  | c :: cs =>
    match OptionName.ofShort? c with
    | none => .error .unknownArgument
    | some switch => do
      short ⟨← (← reading.settle).turnOn switch, none⟩ cs

/-- Reads a path. -/
def path (reading : Reading) (text : String) : Except UsageError Reading := do
  return ⟨(← reading.settle).addPath text, none⟩

/-- Reads an argument that is no option: a value that is waited for, or a path. -/
def plain (reading : Reading) (text : String) : Except UsageError Reading :=
  match reading.pending with
  | some (option, none) => .ok { reading with pending := some (option, some text) }
  | _ => reading.path text

/-- Reads all arguments. -/
def all (reading : Reading) : List String → Except UsageError Reading
  | [] => .ok reading
  | text :: texts =>
    match text.toList with
    | ['-', '-'] => texts.foldlM path reading
    | '-' :: '-' :: long => do (← reading.long long).all texts
    | '-' :: c :: cs => do (← reading.short (c :: cs)).all texts
    | _ => do (← reading.plain text).all texts

end Reading

/-- Reads the arguments of a command line. -/
def ofList (texts : List String) : Except UsageError Arguments := do
  let arguments ← (← Reading.all {} texts).settle
  if arguments.outDir.isSome && arguments.stdout then .error .argumentConflict
  else .ok arguments

end Arguments

end SfcWeave
