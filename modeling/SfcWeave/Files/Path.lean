import SfcWeave.Text.Search

/-!
# Paths

A path is a text that slashes cut into pieces. `Path.components` is what it stands for: empty
pieces and single dots do not count, except for a dot at the very start. Paths are compared by
their components, while their text is kept as it was given, for messages.
-/

namespace SfcWeave

/-- Where a path starts. -/
inductive PathStart where
  /-- At the root: the text starts with a slash. -/
  | root
  /-- At a single dot. -/
  | dot
  /-- At the first piece. -/
  | piece
deriving DecidableEq, Repr

/-- A path: its start, and the pieces between the slashes that follow. -/
structure Path where
  start : PathStart
  pieces : List String
deriving DecidableEq, Repr

/-- A step that a path stands for. -/
inductive Component where
  | root
  | current
  | parent
  | name (name : String)
deriving DecidableEq, Repr

namespace Component

/-- The rank of the kind of a component in the order of components. -/
def rank : Component → Nat
  | root => 0
  | current => 1
  | parent => 2
  | name _ => 3

/-- The order of components: by kind, names by their characters. -/
def le (a b : Component) : Bool :=
  match a, b with
  | name x, name y => decide (x ≤ y)
  | _, _ => decide (a.rank ≤ b.rank)

end Component

namespace Path

/-- The path written as a text. -/
def ofText (text : String) : Path :=
  match (Text.splitOn '/' text.toList).map String.ofList with
  | "" :: piece :: pieces => ⟨.root, piece :: pieces⟩
  | "." :: pieces => ⟨.dot, pieces⟩
  | pieces => ⟨.piece, pieces⟩

/-- The text of a path. -/
def text (path : Path) : String :=
  match path.start with
  | .root => "/" ++ "/".intercalate path.pieces
  | .dot => "/".intercalate ("." :: path.pieces)
  | .piece => "/".intercalate path.pieces

/-- Does the path start at the root? -/
def isAbsolute (path : Path) : Bool := path.start = .root

/-- Pieces that lead nowhere. -/
def isIdle (piece : String) : Bool := piece = "" || piece = "."

/-- The components of a list of pieces. -/
def steps (pieces : List String) : List Component :=
  pieces.filterMap fun piece =>
    if isIdle piece then none else if piece = ".." then some .parent else some (.name piece)

/-- What the start of a path stands for. -/
def lead : PathStart → List Component
  | .root => [.root]
  | .dot => [.current]
  | .piece => []

/-- What a path stands for. -/
def components (path : Path) : List Component := lead path.start ++ steps path.pieces

/-- Do two paths have the same components? -/
def same (a b : Path) : Bool := a.components = b.components

/-- Lists of components in the order of their first difference. -/
def leComponents : List Component → List Component → Bool
  | [], _ => true
  | _ :: _, [] => false
  | a :: as, b :: bs => if a = b then leComponents as bs else a.le b

/-- The order of paths, by components. -/
def le (a b : Path) : Bool := leComponents a.components b.components

/-- The pieces without those at the end that lead nowhere. -/
def trimEnd (pieces : List String) : List String := (pieces.reverse.dropWhile isIdle).reverse

/-- The pieces after the first `count` components, without those at either end that lead
nowhere. -/
def dropSteps : Nat → List String → List String
  | 0, pieces => trimEnd (pieces.dropWhile isIdle)
  | _ + 1, [] => []
  | count + 1, piece :: pieces =>
    if isIdle piece then dropSteps (count + 1) pieces else dropSteps count pieces

/-- The rest of a path below a base; none when it is not below it. -/
def below? (base path : Path) : Option Path :=
  if base.components.isPrefixOf path.components then
    if base.components = [] then some ⟨path.start, trimEnd path.pieces⟩
    else some ⟨.piece,
      dropSteps (base.components.length - (lead path.start).length) path.pieces⟩
  else none

/-- The path below a base, or the whole path when it is not below it. -/
def relativeTo (path base : Path) : Path := (below? base path).getD path

/-- The pieces that continue another path. One that is empty leaves a slash at the end. -/
def continuation (path : Path) : List String :=
  match path.start, path.pieces with
  | .dot, pieces => "." :: pieces
  | _, [] => [""]
  | _, pieces => pieces

/-- The pieces without an empty one at the end. -/
def dropClosingSlash (pieces : List String) : List String :=
  if pieces.getLast? = some "" then pieces.dropLast else pieces

/-- The path that continues with another; an absolute one stands alone. -/
def join (path next : Path) : Path :=
  if next.isAbsolute || path.text = "" then next
  else ⟨path.start, dropClosingSlash path.pieces ++ next.continuation⟩

/-- The path that continues with a text. -/
def joinText (path : Path) (next : String) : Path := path.join (.ofText next)

/-- The path without its last component. -/
def parent? (path : Path) : Option Path :=
  match trimEnd path.pieces with
  | [] =>
    match path.start with
    | .dot => some ⟨.piece, []⟩
    | _ => none
  | piece :: pieces => some ⟨path.start, trimEnd (piece :: pieces).dropLast⟩

/-- The name that a path ends with. -/
def fileName? (path : Path) : Option String :=
  match path.components.getLast? with
  | some (.name name) => some name
  | _ => none

/-- A name up to its last dot; a name with no dot but at its start is all stem. -/
def stem (name : String) : String :=
  match (name.toList.reverse.dropWhile (· ≠ '.')).drop 1 with
  | [] => name
  | before => String.ofList before.reverse

/-- The path with another name at its end. -/
def withFileName (path : Path) (name : String) : Path :=
  match path.fileName? with
  | some _ => ((path.parent?).getD path).joinText name
  | none => path.joinText name

/-- The path from the root, for one that may start at a directory. -/
def absoluteIn (path directory : Path) : Path :=
  if path.isAbsolute then path else directory.join path

end Path

end SfcWeave
