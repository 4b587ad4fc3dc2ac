import SfcWeave.Files.Content
import SfcWeave.Files.Path

/-!
# File trees

A file tree is a list of located entries. The root is always a directory. A path leads to a
location step by step (`FileTree.walk?`): every step starts in a directory that exists, and `..`
goes back to the directory above.
-/

namespace SfcWeave

/-- A place in a file tree: the names on the way from the root. -/
abbrev Location := List String

/-- What can be at a place. -/
inductive Entry where
  | file (content : Content)
  | directory
deriving DecidableEq, Repr

/-- The entries of a tree with their places; each place occurs once. -/
structure FileTree where
  entries : List (Location × Entry) := []
deriving DecidableEq, Repr

namespace FileTree

/-- The entry at a place. -/
def find? (tree : FileTree) (location : Location) : Option Entry :=
  if location = [] then some .directory else tree.entries.lookup location

/-- The tree with an entry put at a place. -/
def put (tree : FileTree) (location : Location) (entry : Entry) : FileTree :=
  ⟨(location, entry) :: tree.entries.filter fun other => other.1 ≠ location⟩

/-- The place that pieces of a path lead to from another place. The last place need not exist. -/
def walk (tree : FileTree) : Location → List String → Except SystemError Location
  | location, [] => .ok location
  | location, piece :: pieces =>
    match tree.find? location with
    | none => .error .notFound
    | some (.file _) => .error .notDirectory
    | some .directory =>
      if Path.isIdle piece then tree.walk location pieces
      else if piece = ".." then tree.walk location.dropLast pieces
      else tree.walk (location ++ [piece]) pieces

/-- The place that a path leads to, with the entry there. -/
def locate (tree : FileTree) (path : Path) : Except SystemError (Location × Entry) :=
  match tree.walk [] path.pieces with
  | .error error => .error error
  | .ok location =>
    match tree.find? location with
    | some entry => .ok (location, entry)
    | none => .error .notFound

/-- Does a path lead to an entry? -/
def contains (tree : FileTree) (path : Path) : Bool := (tree.locate path).toBool

/-- Does a path lead to a file? -/
def isFile (tree : FileTree) (path : Path) : Bool :=
  match tree.locate path with
  | .ok (_, .file _) => true
  | _ => false

/-- Does a path lead to a directory? -/
def isDirectory (tree : FileTree) (path : Path) : Bool :=
  match tree.locate path with
  | .ok (_, .directory) => true
  | _ => false

/-- The content of the file that a path leads to. -/
def read (tree : FileTree) (path : Path) : Except SystemError Content :=
  match tree.locate path with
  | .ok (_, .file content) => .ok content
  | .ok (_, .directory) => .error .isDirectory
  | .error error => .error error

/-- The text of the file that a path leads to. -/
def readText (tree : FileTree) (path : Path) : Except SystemError String :=
  match tree.read path with
  | .ok (.text text) => .ok text
  | .ok (.binary _) => .error .notText
  | .error error => .error error

/-- Where a new entry goes: the directory that `before` leads to, and a name in it. -/
def placeFor (tree : FileTree) (before : List String) (name : String) :
    Except SystemError Location :=
  match tree.walk [] before with
  | .error error => .error error
  | .ok location =>
    match tree.find? location with
    | none => .error .notFound
    | some (.file _) => .error .notDirectory
    | some .directory => .ok (location ++ [name])

/-- Is a piece a step up or no step at all? -/
def isNoName (piece : String) : Bool := Path.isIdle piece || piece = ".."

/-- Makes the directory at the path whose pieces are given from the last to the first. -/
def makeDirectory (tree : FileTree) : List String → Except SystemError FileTree
  | [] => .error .alreadyExists
  | name :: before =>
    match tree.placeFor before.reverse name with
    | .error error => .error error
    | .ok location =>
      if isNoName name || (tree.find? location).isSome then .error .alreadyExists
      else .ok (tree.put location .directory)

/-- Writes a text to the file at a path, in a directory that exists. -/
def writeText (tree : FileTree) (path : Path) (text : String) : Except SystemError FileTree :=
  match path.pieces.getLast? with
  | none => .error .isDirectory
  | some name =>
    match tree.placeFor path.pieces.dropLast name with
    | .error error => .error error
    | .ok location =>
      if isNoName name || tree.find? location = some .directory then .error .isDirectory
      else .ok (tree.put location (.file (.text text)))

/-- What remains of a place below a directory. -/
def namesBelow? : (directory place : Location) → Option (List String)
  | [], [] => none
  | [], name :: names => some (name :: names)
  | _ :: _, [] => none
  | d :: directory, p :: place => if d = p then namesBelow? directory place else none

/-- The files below a place, by the names that lead to them. -/
def filesBelow (tree : FileTree) (directory : Location) : List (List String) :=
  tree.entries.filterMap fun (location, entry) =>
    match entry with
    | .file _ => namesBelow? directory location
    | .directory => none

end FileTree

/-- A change of a file tree that may fail; what it has done before it fails stays done. -/
abbrev FileAction := ExceptT SystemError (StateM FileTree)

namespace FileAction

/-- A change that is made as a whole or not at all. -/
def attempt (change : FileTree → Except SystemError FileTree) : FileAction Unit :=
  ExceptT.mk fun tree =>
    match change tree with
    | .ok changed => (.ok (), changed)
    | .error error => (.error error, tree)

/-- Fails, unless the path with the given pieces, from the last to the first, leads to a
directory. -/
def unlessDirectory (pieces : List String) (error : SystemError) : FileAction Unit := do
  unless (← get).isDirectory ⟨.root, pieces.reverse⟩ do throw error

/-- Makes the directory at a path whose pieces are given from the last to the first, and all that
are missing above it. A directory that is there is left alone. -/
def makeDirectories : (pieces : List String) → FileAction Unit
  | [] => pure ()
  | name :: before =>
    tryCatch (attempt fun tree => tree.makeDirectory (name :: before)) fun
      | .notFound => do
        makeDirectories before
        tryCatch (attempt fun tree => tree.makeDirectory (name :: before))
          (unlessDirectory (name :: before))
      | error => unlessDirectory (name :: before) error

/-- Writes a text to the file at a path, and makes the directories on the way. -/
def write (path : Path) (text : String) : FileAction Unit := do
  match path.parent? with
  | some parent => makeDirectories parent.pieces.reverse
  | none => pure ()
  attempt fun tree => tree.writeText path text

end FileAction

end SfcWeave
