import SfcWeave.Json.Reader

/-!
# Skipping a value

A value that nobody asks for must still be well formed. Its containers are kept on a stack, so
that values may be nested as deep as they like.
-/

namespace SfcWeave.Json.Reader

/-- Goes past an escape, after its backslash. -/
def skipEscape : Reader Unit := do
  match ← peek with
  | none => fail .endInString
  | some 'u' => do
    skip
    let _ ← codeUnit
  | some c =>
    match simpleEscape? c with
    | some _ => skip
    | none => failAhead .invalidEscape

/-- Goes past the rest of a string. At most `fuel` characters are read. -/
def skipStringRest : (fuel : Nat) → Reader Unit
  | 0 => fail .endInString
  | fuel + 1 => do
    match ← peek with
    | none => fail .endInString
    | some '"' => skip
    | some '\\' => do
      skip
      skipEscape
      skipStringRest fuel
    | some c => do
      if c < ' ' then fail .controlCharacter
      skip
      skipStringRest fuel

/-- Goes past a string, after its opening quote. -/
def skipString : Reader Unit := do skipStringRest ((← remaining) + 1)

/-- Goes past an exponent. -/
def skipExponent : Reader Unit := do
  skip
  match ← peek with
  | some '+' | some '-' => skip
  | _ => pure ()
  match ← peek with
  | some d => do
    if !isDigit d then failAhead .invalidNumber
    let _ ← takeWhile isDigit
  | none => fail .invalidNumber

/-- Goes past an exponent if there is one. -/
def skipExponentOrNone : Reader Unit := do
  match ← peek with
  | some 'e' | some 'E' => skipExponent
  | _ => pure ()

/-- Goes past a number, after its sign. -/
def skipNumber : Reader Unit := do
  match ← peek with
  | some '0' => do
    skip
    match ← peek with
    | some d => if isDigit d then failAhead .invalidNumber
    | none => pure ()
  | some d => do
    if !isDigit d then failAhead .invalidNumber
    let _ ← takeWhile isDigit
  | none => fail .invalidNumber
  match ← peek with
  | some '.' => do
    skip
    if (← takeWhile isDigit).isEmpty then failAhead .invalidNumber
    skipExponentOrNone
  | _ => skipExponentOrNone

/-- A container that is open. -/
inductive Container where
  | list
  | object
deriving DecidableEq, Repr

namespace Container

/-- The bracket that closes a container. -/
def closing : Container → Char
  | list => ']'
  | object => '\x7d'

/-- The fault of a container that never ends. -/
def endFault : Container → Fault
  | list => .endInList
  | object => .endInObject

/-- The fault of something other than a comma or the end after a member. -/
def memberFault : Container → Fault
  | list => .expectedListEnd
  | object => .expectedObjectEnd

end Container

/-- Goes past the start of a value: all of it, unless it is a container. -/
def skipStart : Reader (Option Container) := do
  match ← valueStart with
  | 'n' => do skip; word "ull".toList; return none
  | 't' => do skip; word "rue".toList; return none
  | 'f' => do skip; word "alse".toList; return none
  | '-' => do skip; skipNumber; return none
  | '"' => do skip; skipString; return none
  | '[' => do skip; return some .list
  | '\x7b' => do skip; return some .object
  | c => do
    if !isDigit c then failAhead .expectedValue
    skipNumber
    return none

/-- Goes past the name of a member, with its colon. -/
def skipName : Reader Unit := do
  match ← peekPastBlanks with
  | some '"' => do skip; skipString
  | some _ => failAhead .keyNotString
  | none => failAhead .endInObject
  colon

/-- Is another member of a container to be read? Goes past the comma in front of it, or past the
end. -/
def hasAnother (container : Container) (first : Bool) : Reader Bool := do
  match ← peekPastBlanks with
  | none => failAhead container.endFault
  | some c =>
    if !first && c = ',' then do
      skip
      return true
    else if c = container.closing then do
      skip
      return false
    else if first then return true
    else failAhead container.memberFault

/-- Goes on in the innermost of the open containers, until all are closed; `first` tells that it
has no member yet. At most `fuel` members and ends are read. -/
def skipMembers : (fuel : Nat) → (first : Bool) → (containers : List Container) → Reader Unit
  | 0, _, _ => pure ()
  | _ + 1, _, [] => pure ()
  | fuel + 1, first, container :: outer => do
    if ← hasAnother container first then
      if container = .object then skipName
      match ← skipStart with
      | some inner => skipMembers fuel true (inner :: container :: outer)
      | none => skipMembers fuel false (container :: outer)
    else skipMembers fuel false outer

/-- Goes past a value. -/
def skipValue : Reader Unit := do
  match ← skipStart with
  | some container => skipMembers ((← remaining) + 1) true [container]
  | none => pure ()

end SfcWeave.Json.Reader
