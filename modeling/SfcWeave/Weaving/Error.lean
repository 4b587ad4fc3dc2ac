import SfcWeave.Document.Error
import SfcWeave.Script.Snapshot
import SfcWeave.Weaving.Toolchain

/-!
# Why a document cannot be woven
-/

namespace SfcWeave

/-- Why a document cannot be woven. Spans are those in the script. -/
inductive WeavingError where
  | document (error : ParseError)
  | scriptSyntax (file : String) (error : Script.SyntaxError)
  | unnamedClass (file : String) (span : Span)
  | alreadyWoven (file : String)
  | lostWrapper (code : String)
  | invalidSplice (span : Span) (size : Nat)
  | toolchain (error : ToolchainError)
deriving DecidableEq, Repr

namespace WeavingError

/-- The wording of an error. -/
def message : WeavingError → String
  | document error => error.message
  | scriptSyntax file error => file ++ ": failed to parse script: " ++ error.fault.message
  | unnamedClass file _ => file ++ ": component class must be named"
  | alreadyWoven file =>
    file ++ ": render function already injected but a <template> block is still present"
  | lostWrapper code => "transpiled render function lost its wrapper: " ++ code
  | invalidSplice span size =>
    "cannot splice Span \x7b start: " ++ toString span.start ++ ", end: " ++ toString span.stop ++
      " \x7d into a script of " ++ toString size ++ " bytes"
  | toolchain error => error.message

/-- The messages of the causes of an error, from the nearest on. -/
def causes : WeavingError → List String
  | toolchain error => error.causes
  | _ => []

/-- The part of the script that an error is about. -/
def scriptSpan? : WeavingError → Option Span
  | scriptSyntax _ error => some error.span
  | unnamedClass _ span => some span
  | invalidSplice span _ => some span
  | _ => none

/-- An edit that failed in the script of a file. -/
def ofEdit (file : String) : Script.EditError → WeavingError
  | .invalidSpan span size => .invalidSplice span size
  | .syntaxError error => .scriptSyntax file error

end WeavingError

end SfcWeave
