import SfcWeave.Document.Parser
import SfcWeave.Files.Path
import SfcWeave.Text.LineIndex
import SfcWeave.Weaving.Injection

/-!
# Reports

Each file has a report of what happened to it. Failures are shown to the user, with their place in
the file when it is known, and all reports are counted.
-/

namespace SfcWeave

/-- What happened to a file. -/
inductive Outcome where
  /-- The result is in the file at this path. -/
  | written (target : Path)
  | printed
  | unchanged
  /-- The template was refused, for these reasons. -/
  | compileFailed (problems : List String)
  | failed (message : String) (location : Option LineColumn)
deriving DecidableEq, Repr

/-- The report on a file. -/
structure Report where
  path : Path
  outcome : Outcome
deriving DecidableEq, Repr

namespace Outcome

/-- Does the outcome count as a failure? -/
def isFailure : Outcome → Bool
  | compileFailed _ => true
  | failed .. => true
  | _ => false

/-- The outcome for a document that was not given render functions. -/
def ofUninjected : Injection → Outcome
  | .compileFailed problems => .compileFailed problems
  | _ => .unchanged

/-- The message of an error with those of its causes. -/
def fullMessage (error : WeavingError) : String :=
  ": ".intercalate (error.message :: error.causes)

/-- The place in a file of an offset in the script, which stands without its indentation in
`content`. Lines correspond; on the first line the column counts from the start of the content. -/
def scriptLocation? (file : LineIndex) (content : String) (contentSpan : Span) (offset : Nat) :
    Option LineColumn := do
  let inScript ← (LineIndex.ofText content).find? offset
  let start ← file.find? contentSpan.start
  if inScript.line = 0 then some ⟨start.line, start.column + inScript.column⟩
  else some ⟨start.line + inScript.line, inScript.column⟩

/-- The place in a source that an error is about. -/
def errorLocation? (source : String) (error : WeavingError) : Option LineColumn :=
  let file := LineIndex.ofText source
  match error with
  | .document error => file.find? error.span.start
  | _ => do
    let span ← error.scriptSpan?
    let document ← (Document.parse source).toOption
    let script ← document.script
    scriptLocation? file script.content script.contentSpan span.start

/-- The outcome for a source that cannot be woven. -/
def ofError (source : String) (error : WeavingError) : Outcome :=
  .failed (fullMessage error) (errorLocation? source error)

end Outcome

namespace Report

/-- The report on a file that could not be dealt with. -/
def failure (path : Path) (message : String) : Report := ⟨path, .failed message none⟩

/-- What the user is shown. Only failures show. -/
def render? (report : Report) (workspace : Path) : Option String :=
  let relative := (report.path.relativeTo workspace).text
  match report.outcome with
  | .compileFailed problems =>
    some (relative ++ "\nError: template failed to compile\n" ++
      String.join (problems.map fun problem => "  - " ++ problem ++ "\n"))
  | .failed message (some location) =>
    some (relative ++ ":" ++ location.display ++ "\nError: " ++ message ++ "\n")
  | .failed message none => some (relative ++ "\nError: " ++ message ++ "\n")
  | _ => none

end Report

/-- How many files had which outcome. -/
structure Summary where
  files : Nat := 0
  injected : Nat := 0
  unchanged : Nat := 0
  failed : Nat := 0
deriving DecidableEq, Repr

namespace Summary

/-- Counts a report. -/
def record (summary : Summary) (report : Report) : Summary :=
  let summary := { summary with files := summary.files + 1 }
  match report.outcome with
  | .written _ | .printed => { summary with injected := summary.injected + 1 }
  | .unchanged => { summary with unchanged := summary.unchanged + 1 }
  | .compileFailed _ | .failed .. => { summary with failed := summary.failed + 1 }

/-- Counts reports. -/
def ofReports (reports : List Report) : Summary := reports.foldl record {}

/-- The line that is shown at the end. -/
def display (summary : Summary) : String :=
  toString summary.files ++ " files: " ++ toString summary.injected ++ " transformed, " ++
    toString summary.unchanged ++ " unchanged, " ++ toString summary.failed ++ " failed"

end Summary

end SfcWeave
