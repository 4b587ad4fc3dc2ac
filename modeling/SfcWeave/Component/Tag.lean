import SfcWeave.Text.Lowercase

/-!
# Tags of components

A component that is registered as `MyButton` is used in templates as `my-button`: a hyphen goes
before every capital letter that starts a word, and the whole goes to lower case.
-/

namespace SfcWeave

/-- A capital letter of ASCII. -/
def isCapital (c : Char) : Bool := 'A' ≤ c && c ≤ 'Z'

/-- Puts a hyphen before each capital letter whose predecessor is neither a hyphen nor a capital
letter; `previous` is the character before `cs`. -/
def hyphenateAfter (previous : Char) : List Char → List Char
  | [] => []
  | c :: cs =>
    if isCapital c && previous != '-' && !isCapital previous then
      '-' :: c :: hyphenateAfter c cs
    else c :: hyphenateAfter c cs

/-- Puts a hyphen before each capital letter, but the first character, that starts a word. -/
def hyphenatePass : List Char → List Char
  | [] => []
  | c :: cs => c :: hyphenateAfter c cs

/-- The tag under which a component of a name is used. -/
def hyphenate (name : String) : String :=
  Text.lowercase (String.ofList (hyphenatePass (hyphenatePass name.toList)))

end SfcWeave
