import SfcWeave.Files.Tree

/-!
# Finding components

`discover` finds the files to weave under given roots. A root that is a file is taken as it is; a
root that is a directory gives the component files below it that are neither woven already nor
ignored. The result is in the order of paths, and has each file once.
-/

namespace SfcWeave

/-- What the name of a component file ends with. -/
def componentSuffix : String := ".vue"

/-- What the name of a woven file ends with. -/
def wovenSuffix : String := ".typed.vue"

/-- Does a text end with another? -/
def endsWith (text suffix : String) : Bool := suffix.toList.isSuffixOf text.toList

/-- Is a file with this name one to weave? -/
def isComponentName (name : String) : Bool :=
  endsWith name componentSuffix && !endsWith name wovenSuffix

/-- Is a path below a root one to weave? What is ignored is told by the path relative to the
workspace. -/
def isCandidate (workspace : Path) (ignored : String → Bool) (path : Path) : Bool :=
  isComponentName ((path.fileName?).getD "") && !ignored (path.relativeTo workspace).text

/-- The files that a root stands for. -/
def filesOfRoot (tree : FileTree) (workspace : Path) (ignored : String → Bool) (root : Path) :
    Except Path (List Path) :=
  match tree.locate root with
  | .ok (_, .file _) => .ok [root]
  | .ok (location, .directory) =>
    .ok (((tree.filesBelow location).map fun names => names.foldl Path.joinText root).filter
      (isCandidate workspace ignored))
  | .error _ => .error root

/-- A list without repetitions of neighbours that are the same path; the first one stays. -/
def dropRepeated : List Path → List Path
  | [] => []
  | [path] => [path]
  | a :: b :: paths =>
    if a.same b then dropRepeated (a :: paths) else a :: dropRepeated (b :: paths)
termination_by paths => paths.length

/-- The files to weave under the roots, or the first root that does not exist. -/
def discover (tree : FileTree) (workspace : Path) (ignored : String → Bool) (roots : List Path) :
    Except Path (List Path) := do
  let files ← roots.mapM (filesOfRoot tree workspace ignored)
  return dropRepeated (files.flatten.mergeSort Path.le)

end SfcWeave
