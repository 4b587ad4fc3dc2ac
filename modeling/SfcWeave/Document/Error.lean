import SfcWeave.Document.Token

/-!
# Why a document cannot be read

Each cause has one wording, `ParseFault.message`; a `ParseError` adds where in the source it was
found.
-/

namespace SfcWeave

/-- What a header or a comment needs at some place. -/
inductive Expectation where
  | attributeValue
  | attributeOrTagEnd
  | tagEnd
  | commentEnd
deriving DecidableEq, Repr

namespace Expectation

/-- How error messages call what is needed. -/
def describe : Expectation → String
  | attributeValue => "attribute value"
  | attributeOrTagEnd => "attribute or '>'"
  | tagEnd => TokenKind.tagEnd.describe
  | commentEnd => "'-->'"

end Expectation

/-- Why a document cannot be read. -/
inductive ParseFault where
  | unexpectedToken (expected : Expectation) (found : TokenKind)
  | unexpectedEnd (expected : Expectation)
  | unclosedBlock (tag : String)
  | duplicateBlock (tag : String)
deriving DecidableEq, Repr

namespace ParseFault

/-- The wording of a fault. -/
def message : ParseFault → String
  | unexpectedToken expected found =>
    "unexpected token: expected " ++ expected.describe ++ ", found " ++ found.describe
  | unexpectedEnd expected => "unexpected end of file: expected " ++ expected.describe
  | unclosedBlock tag => "unclosed block: <" ++ tag ++ ">"
  | duplicateBlock tag =>
    "a single-file component can only contain one <" ++ tag ++ "> block"

end ParseFault

/-- A fault and where it was found. -/
structure ParseError where
  fault : ParseFault
  span : Span
deriving DecidableEq, Repr

namespace ParseError

/-- The wording of an error. -/
def message (error : ParseError) : String := error.fault.message

end ParseError

end SfcWeave
