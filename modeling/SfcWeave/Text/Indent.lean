import SfcWeave.Text.Blank
import SfcWeave.Text.Search

/-!
# Common indentation

`deindent?` removes the indentation that all lines of a text with content share. The character of
the indentation is the first character of the first line with content; where that is no space and
no tab the text has no common indentation and there is nothing to remove.
-/

namespace SfcWeave.Text

/-- A line without content: it holds nothing but white space. -/
def isBlankLine (line : List Char) : Bool := line.all isBlank

/-- The line without a carriage return at its end. -/
def dropReturn (line : List Char) : List Char := (before? ['\r'] line).getD line

/-- The lines of a text: they end at line feeds, a carriage return before one is left out. -/
def lines (cs : List Char) : List (List Char) := (splitOn '\n' cs).map dropReturn

/-- The length of the run of `c` at the start of a line. -/
def run (c : Char) (line : List Char) : Nat := (line.takeWhile (· == c)).length

/-- How many characters of indentation the lines share: none if no line has content, and `none`
if the first line with content is not indented. -/
def commonIndent? (lines : List (List Char)) : Option Nat :=
  match lines.filter (!isBlankLine ·) with
  | [] => some 0
  | first :: others =>
    match first with
    | c :: _ =>
      if c = ' ' ∨ c = '\t' then
        some (others.foldl (fun least line => min least (run c line)) (run c first))
      else none
    | [] => none

/-- The text without its common indentation, its lines joined by line feeds; `none` when the first
line with content is not indented. -/
def deindent? (text : String) : Option String :=
  let lines := lines text.toList
  (commonIndent? lines).map fun indent =>
    String.ofList (join ['\n'] (lines.map (List.drop indent)))

/-- The text without its common indentation. -/
def deindent (text : String) : String := (deindent? text).getD text

end SfcWeave.Text
