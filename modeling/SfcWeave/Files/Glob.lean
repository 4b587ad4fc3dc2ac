/-!
# Globs

A glob is a text with wildcards that stands for a set of paths. `Glob.ofText` reads it, and
`Glob.covers` decides whether a path is in the set. Paths are matched byte by byte: `?` and a
class stand for one byte, `*` for any bytes, a slash among them. `**` stands for whole names when
slashes or the ends of the glob surround it, and is otherwise the same as `*`.
-/

namespace SfcWeave

/-- A set of bytes: those in one of the ranges, or all others. -/
structure ByteClass where
  negated : Bool
  ranges : List (UInt8 × UInt8)
deriving DecidableEq, Repr

namespace ByteClass

/-- Is a byte in the class? -/
def contains (cls : ByteClass) (byte : UInt8) : Bool :=
  (cls.ranges.any fun (low, high) => low ≤ byte && byte ≤ high) != cls.negated

/-- The bytes of a character. -/
def bytesOf (c : Char) : List UInt8 := (String.singleton c).toUTF8.toList

/-- The ranges for the characters from `low` to `high`: their bytes one by one, but a range from
the last byte of `low` to the first byte of `high`. -/
def charRange (low high : Char) : List (UInt8 × UInt8) :=
  let single (byte : UInt8) : UInt8 × UInt8 := (byte, byte)
  if low = high then (bytesOf low).map single
  else
    match (bytesOf low).reverse, bytesOf high with
    | last :: before, first :: after =>
      before.reverse.map single ++ (last, first) :: after.map single
    | _, _ => []

end ByteClass

/-- A piece of a glob. -/
inductive GlobToken where
  | literal (c : Char)
  /-- One byte. -/
  | any
  /-- Any number of bytes. -/
  | anyMany
  /-- Any number of names with their slashes, at the start. -/
  | leadingNames
  /-- A slash and all that follows, at the end. -/
  | trailingNames
  /-- A slash, and any number of names with their slashes. -/
  | innerNames
  | cls (cls : ByteClass)
  | oneOf (branches : List (List GlobToken))

/-- Why a text is no glob. -/
inductive GlobFault where
  | unclosedClass
  | invalidRange (low high : Char)
  | unclosedBranches
  | unopenedBranches
  | danglingEscape
deriving DecidableEq, Repr

/-- A text that is no glob, with the reason. -/
structure GlobError where
  glob : String
  fault : GlobFault
deriving DecidableEq, Repr

namespace GlobError

/-- The wording of a fault. -/
def describe : GlobFault → String
  | .unclosedClass => "unclosed character class; missing ']'"
  | .invalidRange low high =>
    "invalid range; '" ++ String.singleton low ++ "' > '" ++ String.singleton high ++ "'"
  | .unclosedBranches =>
    "unclosed alternate group; missing '\x7d' (maybe escape '\x7b' with '[\x7b]'?)"
  | .unopenedBranches =>
    "unopened alternate group; missing '\x7b' (maybe escape '\x7d' with '[\x7d]'?)"
  | .danglingEscape => "dangling '\\'"

/-- The wording of an error. -/
def message (error : GlobError) : String :=
  "error parsing glob '" ++ error.glob ++ "': " ++ describe error.fault

end GlobError

/-- A glob: its tokens, in order. -/
structure Glob where
  tokens : List GlobToken

namespace Glob

/-! ## Reading -/

/-- The members of a class that have been read, the latest first. -/
abbrev Members := List (Char × Char)

/-- Reads the members of a class up to its closing bracket. A bracket or a dash at the very start
is a member, and so is a dash at the end; any other dash makes a range of its neighbours.
`pending` tells that a dash waits for the end of its range. -/
def readMembers (members : Members) (pending : Bool) :
    List Char → Except GlobFault (Members × List Char)
  | [] => .error .unclosedClass
  | c :: cs =>
    match members with
    | [] => readMembers [(c, c)] false cs
    | (low, high) :: others =>
      if c = ']' then .ok (if pending then ('-', '-') :: members else members, cs)
      else if pending then
        if c < low then .error (.invalidRange low c)
        else readMembers ((low, c) :: others) false cs
      else if c = '-' then readMembers ((low, high) :: others) true cs
      else readMembers ((c, c) :: members) false cs

/-- Reads a class after its opening bracket. -/
def readClass (cs : List Char) : Except GlobFault (ByteClass × List Char) := do
  let (negated, cs) :=
    match cs with
    | '!' :: rest => (true, rest)
    | '^' :: rest => (true, rest)
    | _ => (false, cs)
  let (members, rest) ← readMembers [] false cs
  let ranges := members.reverse.flatMap fun (low, high) => ByteClass.charRange low high
  return (⟨negated, ranges⟩, rest)

/-- The sequences being read, the innermost first: each has its tokens, the latest first, and the
finished branches of the braces around it, the latest first. -/
structure Reading where
  /-- The tokens of the innermost sequence, the latest first. -/
  tokens : List GlobToken := []
  /-- For every open brace, from the innermost on: its finished branches, the latest first, and
  the tokens before the brace, the latest first. -/
  braces : List (List (List GlobToken) × List GlobToken) := []

namespace Reading

/-- Adds a token. -/
def push (reading : Reading) (token : GlobToken) : Reading :=
  { reading with tokens := token :: reading.tokens }

/-- Opens a brace. -/
def openBrace (reading : Reading) : Reading := ⟨[], ([], reading.tokens) :: reading.braces⟩

/-- Reads a comma: it starts the next branch, or is a literal outside braces. -/
def comma (reading : Reading) : Reading :=
  match reading.braces with
  | [] => reading.push (.literal ',')
  | (branches, before) :: outer => ⟨[], (reading.tokens.reverse :: branches, before) :: outer⟩

/-- Closes a brace. -/
def closeBrace (reading : Reading) : Except GlobFault Reading :=
  match reading.braces with
  | [] => .error .unopenedBranches
  | (branches, before) :: outer =>
    .ok ⟨.oneOf (reading.tokens.reverse :: branches).reverse :: before, outer⟩

/-- Adds two stars that stand for any bytes. -/
def pushStars (reading : Reading) : Reading := (reading.push .anyMany).push .anyMany

/-- Reads two stars after a slash, where `last` tells that nothing follows in the sequence. The
slash is part of the names. -/
def namesAfterSlash (reading : Reading) (last : Bool) : Reading :=
  match reading.tokens with
  | .leadingNames :: _ => reading
  | .trailingNames :: _ => reading
  | _ :: before =>
    { reading with tokens := (if last then .trailingNames else .innerNames) :: before }
  | [] => reading

/-- Can two stars after this character stand for whole names? Inside braces, a comma or an opening
brace counts as a slash, even one that is escaped. -/
def opensNames (reading : Reading) (previous : Option Char) : Bool :=
  previous = some '/' ||
    !reading.braces.isEmpty && (previous = some ',' || previous = some '\x7b')

/-- Reads two stars; `previous` is the character before them. Returns what is left to read, too:
a slash after the stars is part of the names. -/
def doubleStar (reading : Reading) (previous : Option Char) (cs : List Char) :
    Reading × Option Char × List Char :=
  let star := some '*'
  if reading.tokens.isEmpty then
    match cs with
    | [] => (reading.push .leadingNames, star, [])
    | '/' :: rest => (reading.push .leadingNames, some '/', rest)
    | _ => (reading.pushStars, star, cs)
  else if !reading.opensNames previous then (reading.pushStars, star, cs)
  else
    match cs with
    | [] => (reading.namesAfterSlash true, star, [])
    | '/' :: rest => (reading.namesAfterSlash false, some '/', rest)
    | ',' :: _ | '\x7d' :: _ =>
      if reading.braces.isEmpty then (reading.pushStars, star, cs)
      else (reading.namesAfterSlash true, star, cs)
    | _ => (reading.pushStars, star, cs)

end Reading

/-- Reads tokens up to the end. At most `fuel` tokens are read; every token takes a character. -/
def readTokens : (fuel : Nat) → (previous : Option Char) → List Char → Reading →
    Except GlobFault Reading
  | 0, _, _, reading => .ok reading
  | _ + 1, _, [], reading => .ok reading
  | fuel + 1, previous, c :: cs, reading =>
    match c with
    | '?' => readTokens fuel (some c) cs (reading.push .any)
    | '*' =>
      match cs with
      | '*' :: rest =>
        let (reading, previous, rest) := reading.doubleStar previous rest
        readTokens fuel previous rest reading
      | _ => readTokens fuel (some c) cs (reading.push .anyMany)
    | '[' => do
      let (cls, rest) ← readClass cs
      readTokens fuel (some ']') rest (reading.push (.cls cls))
    | '\x7b' => readTokens fuel (some c) cs reading.openBrace
    | '\x7d' => do readTokens fuel (some c) cs (← reading.closeBrace)
    | ',' => readTokens fuel (some c) cs reading.comma
    | '\\' =>
      match cs with
      | [] => .error .danglingEscape
      | escaped :: rest => readTokens fuel (some escaped) rest (reading.push (.literal escaped))
    | _ => readTokens fuel (some c) cs (reading.push (.literal c))

/-- Reads a glob. -/
def ofText (text : String) : Except GlobError Glob :=
  match readTokens text.length none text.toList {} with
  | .error fault => .error ⟨text, fault⟩
  | .ok reading =>
    if reading.braces.isEmpty then .ok ⟨reading.tokens.reverse⟩
    else .error ⟨text, .unclosedBranches⟩

/-! ## Matching -/

/-- A way to go on: does it accept the rest of the bytes? -/
abbrev Rest := List UInt8 → Bool

/-- Accepts given bytes, and then the rest. -/
def expect : List UInt8 → Rest → Rest
  | [], rest, bytes => rest bytes
  | _ :: _, _, [] => false
  | b :: bs, rest, byte :: bytes => b == byte && expect bs rest bytes

/-- Accepts one byte of a set, and then the rest. -/
def expectOne (accepts : UInt8 → Bool) (rest : Rest) : Rest
  | [] => false
  | byte :: bytes => accepts byte && rest bytes

/-- Accepts any bytes, and then the rest. -/
def skipAny (rest : Rest) : Rest
  | [] => rest []
  | byte :: bytes => rest (byte :: bytes) || skipAny rest bytes

/-- The byte of a slash. -/
def slash : UInt8 := 47

mutual

/-- Accepts what a token stands for, and then the rest. -/
def acceptsToken : GlobToken → Rest → Rest
  | .literal c, rest => expect (ByteClass.bytesOf c) rest
  | .any, rest => expectOne (fun _ => true) rest
  | .anyMany, rest => skipAny rest
  | .leadingNames, rest => fun bytes =>
    rest bytes || expect [slash] rest bytes || skipAny (expect [slash] rest) bytes
  | .trailingNames, rest => expect [slash] (skipAny rest)
  | .innerNames, rest => fun bytes =>
    expect [slash] rest bytes || expect [slash] (skipAny (expect [slash] rest)) bytes
  | .cls cls, rest => expectOne cls.contains rest
  | .oneOf branches, rest =>
    if allSilent branches then rest else acceptsSome branches rest

/-- Accepts what tokens stand for, in order, and then the rest. -/
def acceptsAll : List GlobToken → Rest → Rest
  | [], rest => rest
  | token :: tokens, rest => acceptsToken token (acceptsAll tokens rest)

/-- Accepts what one of the branches stands for, and then the rest; a branch without a text does
not count. -/
def acceptsSome : List (List GlobToken) → Rest → Rest
  | [], _ => fun _ => false
  | branch :: branches, rest => fun bytes =>
    (!silent branch && acceptsAll branch rest bytes) || acceptsSome branches rest bytes

/-- Does a token stand for nothing at all? -/
def silentToken : GlobToken → Bool
  | .oneOf branches => allSilent branches
  | _ => false

/-- Do the tokens stand for nothing at all? -/
def silent : List GlobToken → Bool
  | [] => true
  | token :: tokens => silentToken token && silent tokens

/-- Do all branches stand for nothing at all? -/
def allSilent : List (List GlobToken) → Bool
  | [] => true
  | branch :: branches => silent branch && allSilent branches

end

/-- Is a path in the set of a glob? Two stars alone stand for every path. -/
def covers (glob : Glob) (path : String) : Bool :=
  match glob.tokens with
  | [.leadingNames] => true
  | tokens => acceptsAll tokens List.isEmpty path.toUTF8.toList

end Glob

end SfcWeave
