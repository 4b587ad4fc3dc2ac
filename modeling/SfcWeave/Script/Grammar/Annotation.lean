import SfcWeave.Script.Grammar.Basic

/-!
# Types where they are mentioned

Type arguments and parameters, annotations, and the modifiers in front of members and parameters.
-/

namespace SfcWeave.Script.Grammar

open Reader

/-- Reads a type in which `extends` may be the mark of a conditional type. -/
def fullType (g : Grammar) : Reader Unit :=
  withReader (fun s => { s with conditionalTypes := true }) g.type

/-- May this lexeme follow a modifier? -/
def followsModifier (cursor : Cursor) : Bool :=
  !cursor.newline &&
    (cursor.isOneOf ["[", "\x7b", "*", "...", "#"] || cursor.isName || cursor.isString ||
      cursor.isNumber)

/-- Takes one of the modifiers if it stands in front of something. A `static` that opens a block is
left in place if `keepStaticBlock`. -/
def modifier? (allowed : List String) (keepStaticBlock : Bool := false) :
    Reader (Option String) := do
  let cursor ← cursor
  let next := cursor.next
  match allowed.find? cursor.isWord with
  | some word =>
    if keepStaticBlock && word == "static" && next.isMark "\x7b" then return none
    if followsModifier next then advance; return some word
    else return none
  | none => return none

/-- Takes an access modifier in front of a name or a pattern. -/
def skipAccessModifier : Reader Bool := do
  let cursor ← cursor
  let next := cursor.next
  let modifiers := ["public", "protected", "private", "readonly"]
  if modifiers.any cursor.isWord && (next.isName || next.isMark "\x7b" || next.isMark "[") then
    let _ ← modifier? modifiers
    return true
  else return false

/-- Type arguments in angles. -/
def typeArguments (g : Grammar) : Reader Unit := do
  setCursor (← cursor).cutShift
  expect "<"
  listed (·.isMark ">") g.fullType
  expect ">"

/-- Does the cursor stand on an angle that may open type arguments? -/
def atAngle : Reader Bool := return (← cursor).isOneOf ["<", "<<"]

/-- Reads a type after a mark or a word, if that is there. -/
def typeAfter (g : Grammar) (isThere : Reader Bool) : Reader Unit := do
  if ← isThere then g.fullType

/-- A type parameter with its modifiers, constraint and default. -/
def typeParameter (g : Grammar) : Reader Unit := do
  let _ ← repeatUntil () fun _ => do
    match ← modifier?
      ["public", "private", "protected", "readonly", "abstract", "const", "override", "in",
        "out"] with
    | some _ => return .inl ()
    | none => return .inr ()
  let _ ← name
  g.typeAfter (acceptWord "extends")
  g.typeAfter (accept "=")

/-- Type parameters in angles. -/
def typeParameters (g : Grammar) : Reader Unit := do
  expect "<"
  listed (·.isMark ">") g.typeParameter
  expect ">"

/-- Type parameters, if there are any. -/
def typeParametersIfAny (g : Grammar) : Reader Unit := do
  if ← atMark "<" then g.typeParameters

/-- A type annotation, if there is one. -/
def annotation (g : Grammar) : Reader Unit := g.typeAfter (accept ":")

/-- The type of a result after its mark: a type, or a predicate such as `x is T`. -/
def resultType (g : Grammar) (mark : String) : Reader Unit := do
  expect mark
  let asserts := (← cursor).isWord "asserts" && ((← peek).isIdentifier || (← peek).isWord "this")
  if asserts then advance
  let next ← peek
  let isPredicate :=
    ((← cursor).isIdentifier || asserts) && next.isWord "is" && !next.newline
  if asserts || isPredicate then
    let _ ← name
    if isPredicate then advance; g.fullType
  else g.fullType

/-- The type of a result after a colon, if there is one. -/
def resultTypeIfAny (g : Grammar) : Reader Unit := do
  if ← atMark ":" then g.resultType ":"

/-- The end of a member of an object type: a comma, or the end of a statement. -/
def memberEnd : Reader Unit := do
  unless ← accept "," do expectEnd

/-- An index signature such as `[key: string]: T`, if there is one. -/
def indexSignature? (g : Grammar) : Reader Bool := do
  let isThere ← lookAhead do
    expect "["
    let isName := (← cursor).isIdentifier
    advance
    return isName && (← cursor).isOneOf [":", ","]
  if isThere then
    expect "["
    let _ ← name
    unless ← accept "," do expect ":"
    g.fullType
    expect "]"
    g.annotation
    memberEnd
  return isThere

end SfcWeave.Script.Grammar
