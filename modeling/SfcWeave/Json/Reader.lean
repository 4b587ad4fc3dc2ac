import SfcWeave.Json.Error
import SfcWeave.Text.Bytes

/-!
# Reading JSON

A reader takes a value from the front of a text, or fails at a position. Readers are typed: they
say which kind of value they expect, so that a value of another kind is refused where it stands,
before the text behind it is looked at. A fault is either at the place where reading stands
(`fail`) or at the byte after it (`failAhead`).
-/

namespace SfcWeave.Json

/-- Where reading stands: the rest of the text, the line, from one, and the bytes of that line
that have been read. -/
structure Cursor where
  rest : List Char
  line : Nat := 1
  column : Nat := 0
deriving Repr

namespace Cursor

/-- The cursor after a character. -/
def past (c : Char) (rest : List Char) (cursor : Cursor) : Cursor :=
  if c = '\n' then ⟨rest, cursor.line + 1, 0⟩
  else ⟨rest, cursor.line, cursor.column + c.utf8Size⟩

/-- The cursor after the next character, if there is one. -/
def advance (cursor : Cursor) : Cursor :=
  match cursor.rest with
  | [] => cursor
  | c :: rest => cursor.past c rest

/-- A fault where reading stands. -/
def faultHere (cursor : Cursor) (fault : Fault) : Error := ⟨fault, cursor.line, cursor.column⟩

/-- A fault at the byte after, if there is one. -/
def faultAhead (cursor : Cursor) (fault : Fault) : Error :=
  match cursor.rest with
  | [] => cursor.faultHere fault
  | '\n' :: _ => ⟨fault, cursor.line + 1, 0⟩
  | _ :: _ => ⟨fault, cursor.line, cursor.column + 1⟩

/-- The characters between the parts of a text. -/
def isBlank (c : Char) : Bool := c = ' ' || c = '\n' || c = '\t' || c = '\r'

/-- The cursor after the characters that satisfy `p`. -/
def skipWhile (p : Char → Bool) (cursor : Cursor) : Cursor :=
  go cursor.rest cursor.line cursor.column
where
  go : List Char → Nat → Nat → Cursor
    | [], line, column => ⟨[], line, column⟩
    | c :: rest, line, column =>
      if p c then
        if c = '\n' then go rest (line + 1) 0 else go rest line (column + c.utf8Size)
      else ⟨c :: rest, line, column⟩

/-- The cursor after blanks. -/
def skipBlanks (cursor : Cursor) : Cursor := cursor.skipWhile isBlank

/-- The cursor after a number of bytes, even in the middle of a character. -/
def advanceBytes : Nat → Cursor → Cursor
  | 0, cursor => cursor
  | count + 1, cursor =>
    match cursor.rest with
    | [] => cursor
    | c :: rest =>
      if c.utf8Size ≤ count + 1 then advanceBytes (count + 1 - c.utf8Size) (cursor.past c rest)
      else ⟨cursor.rest, cursor.line, cursor.column + count + 1⟩
termination_by count => count
decreasing_by have := c.utf8Size_pos; omega

end Cursor

/-- A computation that reads from the front of a text and may fail. -/
abbrev Reader := StateT Cursor (Except Error)

namespace Reader

variable {α : Type}

/-- Fails where reading stands. -/
def fail (fault : Fault) : Reader α := do throw ((← get).faultHere fault)

/-- Fails at the byte after. -/
def failAhead (fault : Fault) : Reader α := do throw ((← get).faultAhead fault)

/-- The next character. -/
def peek : Reader (Option Char) := return (← get).rest.head?

/-- Goes past the next character. -/
def skip : Reader Unit := modify Cursor.advance

/-- The next character after blanks. -/
def peekPastBlanks : Reader (Option Char) := do
  modify Cursor.skipBlanks
  peek

/-- Goes past the characters that satisfy `p`, and returns them. -/
def takeWhile (p : Char → Bool) : Reader (List Char) := do
  let taken := (← get).rest.takeWhile p
  modify (Cursor.skipWhile p)
  return taken

/-- The number of characters that are left. -/
def remaining : Reader Nat := return (← get).rest.length

/-! ## Words and strings -/

/-- Reads the rest of a word. -/
def word : List Char → Reader Unit
  | [] => pure ()
  | expected :: more => do
    match ← peek with
    | none => fail .endInValue
    | some c => do
      if c ≠ expected then failAhead .expectedWord
      skip
      word more

/-- The value of a hexadecimal digit. -/
def hexDigit? (c : Char) : Option Nat :=
  if '0' ≤ c ∧ c ≤ '9' then some (c.toNat - '0'.toNat)
  else if 'a' ≤ c ∧ c ≤ 'f' then some (c.toNat - 'a'.toNat + 10)
  else if 'A' ≤ c ∧ c ≤ 'F' then some (c.toNat - 'A'.toNat + 10)
  else none

/-- The number that four hexadecimal digits at the front stand for. -/
def hexNumber? : List Char → Option Nat
  | a :: b :: c :: d :: _ => do
    let a ← hexDigit? a
    let b ← hexDigit? b
    let c ← hexDigit? c
    let d ← hexDigit? d
    return ((a * 16 + b) * 16 + c) * 16 + d
  | _ => none

/-- Reads the four digits of an escaped code unit. -/
def codeUnit : Reader Nat := do
  let rest := (← get).rest
  let number? := hexNumber? rest
  modify (Cursor.advanceBytes 4)
  match number? with
  | some number => return number
  | none => if Text.byteLength rest < 4 then fail .endInString else fail .invalidEscape

/-- Reads a given character inside the second half of an escaped pair. -/
def pairMark (mark : Char) : Reader Unit := do
  match ← peek with
  | none => fail .endInString
  | some c => do
    if c ≠ mark then failAhead .unfinishedPair
    skip

/-- Reads the rest of an escape by code units, after its `u`. Characters beyond the first plane
are written by two of them. -/
def unicodeEscape : Reader Char := do
  let unit ← codeUnit
  if 0xDC00 ≤ unit ∧ unit ≤ 0xDFFF then fail .loneSurrogate
  if unit < 0xD800 ∨ 0xDBFF < unit then return Char.ofNat unit
  pairMark '\\'
  pairMark 'u'
  let low ← codeUnit
  if low < 0xDC00 ∨ 0xDFFF < low then fail .loneSurrogate
  return Char.ofNat ((unit - 0xD800) * 0x400 + (low - 0xDC00) + 0x10000)

/-- The character that a letter after a backslash stands for. -/
def simpleEscape? : Char → Option Char
  | '"' => some '"'
  | '\\' => some '\\'
  | '/' => some '/'
  | 'b' => some '\x08'
  | 'f' => some '\x0c'
  | 'n' => some '\n'
  | 'r' => some '\r'
  | 't' => some '\t'
  | _ => none

/-- Reads an escape after its backslash. -/
def escape : Reader Char := do
  match ← peek with
  | none => fail .endInString
  | some 'u' => do
    skip
    unicodeEscape
  | some c =>
    match simpleEscape? c with
    | some meant => do
      skip
      return meant
    | none => failAhead .invalidEscape

/-- Reads the characters of a string after its opening quote, up to the closing one; `read` holds
those already read, the latest first. At most `fuel` characters are read. -/
def stringRest : (fuel : Nat) → (read : List Char) → Reader String
  | 0, _ => fail .endInString
  | fuel + 1, read => do
    match ← peek with
    | none => fail .endInString
    | some '"' => do
      skip
      return String.ofList read.reverse
    | some '\\' => do
      skip
      let c ← escape
      stringRest fuel (c :: read)
    | some c => do
      if c < ' ' then failAhead .controlCharacter
      skip
      stringRest fuel (c :: read)

/-- Reads a string after its opening quote. -/
def stringBody : Reader String := do stringRest ((← remaining) + 1) []

/-! ## Numbers -/

/-- A number: integers that fit into 64 bits are exact. -/
inductive Number where
  | integer (value : Int)
  | float (value : Float)

/-- Is a character a decimal digit? -/
def isDigit (c : Char) : Bool := '0' ≤ c && c ≤ '9'

/-- Appends digits to a number, as long as it stays below `2 ^ 64`. Returns the digits left. -/
def appendDigits : Nat → List Char → Nat × List Char
  | number, [] => (number, [])
  | number, d :: ds =>
    let next := number * 10 + (d.toNat - '0'.toNat)
    if next < 0x10000000000000000 then appendDigits next ds else (number, d :: ds)

/-- A number scaled by a power of ten, in steps of 308; none when it is too large. -/
def scale : (fuel : Nat) → Float → Int → Option Float
  | 0, number, _ => some number
  | fuel + 1, number, power =>
    if power.natAbs ≤ 308 then
      let factor := Float.ofScientific 1 false power.natAbs
      if 0 ≤ power then
        let scaled := number * factor
        if scaled.isInf then none else some scaled
      else some (number / factor)
    else if number == 0.0 then some number
    else if 0 ≤ power then none
    else scale fuel (number / 1e308) (power + 308)

/-- The floating-point number `digits * 10 ^ power`. -/
def floatNumber (positive : Bool) (digits : Nat) (power : Int) : Reader Number := do
  match scale 8 digits.toUInt64.toFloat power with
  | some number => return .float (if positive then number else -number)
  | none => fail .numberOutOfRange

/-- The bounds of an exponent. -/
def clampPower (power : Int) : Int := max (-0x80000000) (min 0x7FFFFFFF power)

/-- Goes past digits of an exponent that begins with `number`, as long as it stays below `2 ^ 31`;
none when it does not, with the digit that is too much read. -/
def exponentDigits : (fuel : Nat) → (number : Nat) → Reader (Option Nat)
  | 0, number => return some number
  | fuel + 1, number => do
    match ← peek with
    | some d =>
      if isDigit d then do
        skip
        let next := number * 10 + (d.toNat - '0'.toNat)
        if next < 0x80000000 then exponentDigits fuel next else return none
      else return some number
    | none => return some number

/-- Reads an exponent, after digits that are to be scaled by `10 ^ power`. -/
def exponent (positive : Bool) (digits : Nat) (power : Int) : Reader Number := do
  skip
  let up ←
    match ← peek with
    | some '+' => do skip; pure true
    | some '-' => do skip; pure false
    | _ => pure true
  match ← peek with
  | none => fail .endInValue
  | some d => do
    if !isDigit d then failAhead .invalidNumber
    skip
    match ← exponentDigits (← remaining) (d.toNat - '0'.toNat) with
    | some number =>
      floatNumber positive digits (clampPower (if up then power + number else power - number))
    | none => do
      if digits ≠ 0 && up then fail .numberOutOfRange
      let _ ← takeWhile isDigit
      return .float (if positive then 0.0 else -0.0)

/-- Reads an exponent if there is one, after digits that are to be scaled by `10 ^ power`. -/
def exponentOrNone (positive : Bool) (digits : Nat) (power : Int) : Reader Number := do
  match ← peek with
  | some 'e' | some 'E' => exponent positive digits power
  | _ => floatNumber positive digits power

/-- Reads a fraction from its point on, after digits that are to be scaled by `10 ^ power`. -/
def fraction (positive : Bool) (digits : Nat) (power : Int) : Reader Number := do
  skip
  let places ← takeWhile isDigit
  if places.isEmpty then
    match ← peek with
    | some _ => failAhead .invalidNumber
    | none => fail .endInValue
  let (digits, left) := appendDigits digits places
  exponentOrNone positive digits (power - (places.length - left.length : Nat))

/-- The number of an integer that has been read: it is exact if 64 bits can hold it. -/
def wholeNumber (positive : Bool) (digits : Nat) : Number :=
  if positive then .integer digits
  else if digits = 0 || 0x8000000000000000 < digits then .float (-digits.toUInt64.toFloat)
  else .integer (-digits)

/-- Reads what may follow the digits before the point. -/
def numberTail (positive : Bool) (digits : Nat) (left : List Char) : Reader Number := do
  match ← peek with
  | some '.' => fraction positive digits left.length
  | some 'e' | some 'E' => exponent positive digits left.length
  | _ =>
    if left.isEmpty then return wholeNumber positive digits
    else floatNumber positive digits left.length

/-- Reads a number after its sign. -/
def number (positive : Bool) : Reader Number := do
  match ← peek with
  | none => fail .endInValue
  | some '0' => do
    skip
    match ← peek with
    | some d => if isDigit d then failAhead .invalidNumber
    | none => pure ()
    numberTail positive 0 []
  | some d => do
    if !isDigit d then failAhead .invalidNumber
    let (digits, left) := appendDigits 0 (← takeWhile isDigit)
    numberTail positive digits left

namespace Number

/-- A number as it is named in a fault. -/
def found : Number → Found
  | integer value => .integer value
  | float value => .float value

end Number

/-! ## Values -/

/-- Refuses the value that stands here for one of the expected kind. A value that is not well
formed is refused for that. -/
def refuse (expected : String) : Reader α := do
  let wrong (found : Found) : Reader α := fail (.wrongType found expected)
  match ← peek with
  | some 'n' => do skip; word "ull".toList; wrong .null
  | some 't' => do skip; word "rue".toList; wrong (.boolean true)
  | some 'f' => do skip; word "alse".toList; wrong (.boolean false)
  | some '-' => do skip; wrong (← number false).found
  | some '"' => do skip; wrong (.string (← stringBody))
  | some '[' => wrong .list
  | some '\x7b' => wrong .object
  | some c => if isDigit c then do wrong (← number true).found else failAhead .expectedValue
  | none => failAhead .expectedValue

/-- The first character of a value, after blanks. -/
def valueStart : Reader Char := do
  match ← peekPastBlanks with
  | some c => return c
  | none => failAhead .endInValue

/-- Reads a string. -/
def string : Reader String := do
  match ← valueStart with
  | '"' => do skip; stringBody
  | _ => refuse "a string"

/-- Reads a truth value. -/
def boolean : Reader Bool := do
  match ← valueStart with
  | 't' => do skip; word "rue".toList; return true
  | 'f' => do skip; word "alse".toList; return false
  | _ => refuse "a boolean"

/-- Reads a natural number below `2 ^ 64`. -/
def natural : Reader Nat := do
  let expected := "u64"
  let accept (number : Number) : Reader Nat :=
    match number with
    | .integer value =>
      if 0 ≤ value then return value.toNat else fail (.wrongValue (.integer value) expected)
    | .float value => fail (.wrongType (.float value) expected)
  match ← valueStart with
  | '-' => do skip; accept (← number false)
  | c => if isDigit c then do accept (← number true) else refuse expected

/-- Reads `null`, or a value with another reader. -/
def nullable (read : Reader α) : Reader (Option α) := do
  match ← peekPastBlanks with
  | some 'n' => do skip; word "ull".toList; return none
  | _ => some <$> read

/-! ## Lists -/

/-- Is there another element? Goes past the comma in front of it. -/
def hasElement (first : Bool) : Reader Bool := do
  match ← peekPastBlanks with
  | some ']' => return false
  | some c =>
    if first then return true
    else if c = ',' then do
      skip
      match ← peekPastBlanks with
      | some ']' => failAhead .trailingComma
      | some _ => return true
      | none => failAhead .endInValue
    else failAhead .expectedListEnd
  | none => failAhead .endInList

/-- Goes past the end of a list; the second part is what is wrong with it. -/
def listEnd (cursor : Cursor) : Cursor × Option Error :=
  let cursor := cursor.skipBlanks
  match cursor.rest with
  | ']' :: _ => (cursor.advance, none)
  | ',' :: _ =>
    let cursor := cursor.advance.skipBlanks
    (cursor, some (cursor.faultAhead
      (if cursor.rest.head? = some ']' then .trailingComma else .trailingCharacters)))
  | _ :: _ => (cursor, some (cursor.faultAhead .trailingCharacters))
  | [] => (cursor, some (cursor.faultAhead .endInList))

/-- Runs the end of a list or an object. A fault of its members that has no position of its own
is placed after it, and goes first. -/
def close (finish : Cursor → Cursor × Option Error) (result : Except Fault α) : Reader α := do
  let (cursor, wrong) := finish (← get)
  match result, wrong with
  | .error fault, _ => throw (cursor.faultHere fault)
  | .ok _, some error => throw error
  | .ok value, none => do
    set cursor
    return value

/-- Reads the elements of a list up to its end; `elements` holds those already read, the latest
first. At most `fuel` elements are read. -/
def elements (read : Reader α) : (fuel : Nat) → (elements : List α) → Reader (List α)
  | 0, sofar => return sofar.reverse
  | fuel + 1, sofar => do
    if ← hasElement sofar.isEmpty then
      let element ← read
      elements read fuel (element :: sofar)
    else return sofar.reverse

/-- Reads a list. -/
def list (read : Reader α) : Reader (List α) := do
  match ← valueStart with
  | '[' => do
    skip
    let all ← elements read ((← remaining) + 1) []
    close listEnd (.ok all)
  | _ => refuse "a sequence"

/-! ## Objects -/

/-- Is there another member? Goes past the comma in front of it. -/
def hasMember (first : Bool) : Reader Bool := do
  match ← peekPastBlanks with
  | some '\x7d' => return false
  | some c =>
    if first then
      if c = '"' then return true else failAhead .keyNotString
    else if c = ',' then do
      skip
      match ← peekPastBlanks with
      | some '"' => return true
      | some '\x7d' => failAhead .trailingComma
      | some _ => failAhead .keyNotString
      | none => failAhead .endInValue
    else failAhead .expectedObjectEnd
  | none => failAhead .endInObject

/-- Reads the colon after the name of a member. -/
def colon : Reader Unit := do
  match ← peekPastBlanks with
  | some ':' => skip
  | some _ => failAhead .expectedColon
  | none => failAhead .endInObject

/-- Goes past the end of an object; the second part is what is wrong with it. -/
def objectEnd (cursor : Cursor) : Cursor × Option Error :=
  let cursor := cursor.skipBlanks
  match cursor.rest with
  | '\x7d' :: _ => (cursor.advance, none)
  | ',' :: _ => (cursor, some (cursor.faultAhead .trailingComma))
  | _ :: _ => (cursor, some (cursor.faultAhead .trailingCharacters))
  | [] => (cursor, some (cursor.faultAhead .endInObject))

end Reader

open Reader in
/-- Reads a whole text with a reader; nothing but blanks may follow the value. -/
def read {α : Type} (reader : Reader α) (text : String) : Except Error α :=
  let whole : Reader α := do
    let value ← reader
    match ← peekPastBlanks with
    | some _ => failAhead .trailingCharacters
    | none => return value
  whole.run' ⟨text.toList, 1, 0⟩

end SfcWeave.Json
