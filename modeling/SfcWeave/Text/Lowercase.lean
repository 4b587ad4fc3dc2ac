import SfcWeave.Text.CaseTable
import SfcWeave.Text.Ranges

/-!
# Lower case

The lower case form of a text by the Unicode standard. Characters map one by one, with two
exceptions: a capital I with a dot above becomes two characters, and a capital sigma at the end of
a word becomes the final sigma.
-/

namespace SfcWeave.Text

/-- The lower case form of a character that has one of its own. -/
def lowerRun? (n : Nat) : List LowerRun → Option Nat
  | [] => none
  | run :: rest =>
    if n < run.first then none
    else if n ≤ run.last && (n - run.first) % run.step == 0 then some (n + run.shift).toNat
    else lowerRun? n rest

/-- The lower case form of a character by itself. -/
def lowerChar (c : Char) : List Char :=
  if c = '\u0130' then ['i', '\u0307']
  else match lowerRun? c.toNat lowerRuns with
    | some n => [Char.ofNat n]
    | none => [c]

/-- Has an upper, lower or title case. -/
def isCased (c : Char) : Bool := inRanges casedRanges c.toNat

/-- Does not separate the letters of a word. -/
def isCaseIgnorable (c : Char) : Bool := inRanges ignorableRanges c.toNat

/-- Is the next letter, past what may stand inside a word, one that has a case? -/
def letterFollows (cs : List Char) : Bool :=
  match cs.dropWhile isCaseIgnorable with
  | c :: _ => isCased c
  | [] => false

/-- The lower case form of `cs` when `before` is the text before it, backwards. -/
def lowerFrom (before : List Char) : List Char → List Char
  | [] => []
  | c :: cs =>
    let lower :=
      if c = 'Σ' then [if letterFollows before && !letterFollows cs then 'ς' else 'σ']
      else lowerChar c
    lower ++ lowerFrom (c :: before) cs

/-- The lower case form of a text. -/
def lowercase (text : String) : String := String.ofList (lowerFrom [] text.toList)

end SfcWeave.Text
