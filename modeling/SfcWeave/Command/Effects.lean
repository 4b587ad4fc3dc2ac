import SfcWeave.Component.Target
import SfcWeave.Files.Tree

/-!
# What a command does

The effects of a command are a changed file tree, texts on the two output streams, and warnings.
-/

namespace SfcWeave

/-- What a command has done so far. -/
structure Effects where
  tree : FileTree
  /-- The text on the standard output. -/
  printed : String := ""
  /-- The text on the error output. -/
  complaints : String := ""
  warnings : List Warning := []
deriving Repr

namespace Effects

/-- Adds a line to the standard output. -/
def print (effects : Effects) (line : String) : Effects :=
  { effects with printed := effects.printed ++ line ++ "\n" }

/-- Adds a line to the error output. -/
def complain (effects : Effects) (line : String) : Effects :=
  { effects with complaints := effects.complaints ++ line ++ "\n" }

/-- Adds warnings. -/
def warn (effects : Effects) (warnings : List Warning) : Effects :=
  { effects with warnings := effects.warnings ++ warnings }

/-- Writes a file, and makes the directories on the way. -/
def write (effects : Effects) (path : Path) (text : String) :
    Except SystemError Unit × Effects :=
  let (result, tree) := (FileAction.write path text).run effects.tree
  (result, { effects with tree })

end Effects

/-- The wording for a file that cannot be written. -/
def writeFailure (path : Path) (error : SystemError) : String :=
  "failed to write " ++ path.text ++ ": " ++ error.message

end SfcWeave
