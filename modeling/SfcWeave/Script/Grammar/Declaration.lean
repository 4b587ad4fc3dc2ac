import SfcWeave.Script.Grammar.Expression
import SfcWeave.Script.Grammar.Type

/-!
# Declarations

Declarations of variables, and those that only types and namespaces have. Each reader returns the
extent of the declaration from the given start.
-/

namespace SfcWeave.Script.Grammar

open Reader

/-! ### Variables -/

/-- A variable with its annotation and its value. A pattern needs a value, except in loops, in
ambient declarations and in constants. -/
def declarator (g : Grammar) (inLoop isConstant : Bool) : Reader Unit := do
  let start ← position
  let binding ← g.binding
  if binding == .name then let _ ← accept "!"
  g.annotation
  let cursor ← cursor
  unless inLoop && (cursor.isWord "of" || cursor.isWord "in") do
    if ← accept "=" then let _ ← g.assignment
    else if binding == .pattern && !(← read).inDeclare && (inLoop || !isConstant) then
      fail .missingInitializer (← spanFrom start)

/-- Passes over what stands between a declaration and the end of its statement. -/
def skipToEnd (g : Grammar) : Reader Unit := do
  let _ ← try g.expression catch _ => pure .other
  repeatUntil () fun _ => do
    if ← acceptEnd then return .inr ()
    advance
    match (← cursor).lexeme with
    | .invalid _ => return .inr ()
    | _ => return .inl ()

/-- A declaration of variables, from its keyword on. -/
def variableList (g : Grammar) (inLoop : Bool) : Reader Span := do
  let start ← position
  let isVar ← atWord "var"
  let isConstant ← atWord "const"
  advance
  repeatUntil () fun _ => do
    if (← atMark ";") || (← cursor).isEnd then return .inr ()
    if isVar && inLoop then
      withReader (fun s => { s with allowIn := false }) (g.declarator inLoop isConstant)
    else withIn (g.declarator inLoop isConstant)
    if ← accept "," then return .inl () else return .inr ()
  if ← onlyIf (!inLoop) (return !(← acceptEnd)) then g.skipToEnd
  spanFrom start

/-- Does this lexeme after `let` make it the start of a declaration? -/
def followsLet (cursor : Cursor) : Bool := cursor.isName || cursor.isOneOf ["\x7b", "["]

/-! ### Types -/

/-- An interface, from its name on. -/
def interfaceRest (g : Grammar) (start : Nat) : Reader Span := do
  let _ ← name
  g.typeParametersIfAny
  if ← acceptWord "extends" then g.heritage
  if ← atWord "extends" then
    let _ ← whileHolds (before "\x7b") advance
  g.objectType
  spanFrom start

/-- A type alias, from its name on. -/
def aliasRest (g : Grammar) (start : Nat) : Reader Span := do
  let _ ← name
  g.typeParametersIfAny
  expect "="
  g.fullType
  expectEnd
  spanFrom start

/-- A member of an enumeration. -/
def enumMember (g : Grammar) : Reader Unit := do
  let cursor ← cursor
  if ← accept "[" then
    let _ ← g.expression
    expect "]"
  else if cursor.isString || cursor.isNumber || cursor.isName then advance
  else unexpected
  if ← accept "=" then
    let _ ← withIn g.assignment
  else unless (← Reader.cursor).isOneOf [",", "\x7d"] do advance

/-- An enumeration, from its name on. The commas between its members may be missing. -/
def enumRest (g : Grammar) (start : Nat) : Reader Span := do
  let _ ← name
  expect "\x7b"
  let _ ← whileHolds (return !(← atMark "\x7d")) do
    g.enumMember
    let _ ← accept ","
  expect "\x7d"
  spanFrom start

/-! ### Namespaces -/

/-- The body of a namespace: its items become nested items of the current one. -/
def namespaceBody (g : Grammar) : Reader Unit := do
  expect "\x7b"
  let items ← withReader
    (fun s => { s with
      moduleLevel := true, inAsync := false, inGenerator := false, allowIn := true })
    g.items
  let _ ← accept "\x7d"
  modify fun p => { p with nested := items.reverse ++ p.nested }

/-- A namespace, from its name on. -/
def namespaceRest (g : Grammar) (start : Nat) : Reader Span := do
  let _ ← name
  let _ ← whileHolds (accept ".") name
  g.namespaceBody
  spanFrom start

/-- A declaration of another module or of the global scope, from its name on. -/
def moduleRest (g : Grammar) (start : Nat) : Reader Span := do
  let cursor ← cursor
  unless cursor.isWord "global" || cursor.isString do unexpected
  advance
  if ← atMark "\x7b" then g.namespaceBody else expectEnd
  spanFrom start

/-! ### Declarations by their first word -/

/-- A class, from its keyword or the `abstract` before it on. -/
def classDeclaration (g : Grammar) (start : Nat) : Reader Span := do
  let _ ← acceptWord "abstract"
  let _ ← g.classRest true
  spanFrom start

/-- The declaration that the word `first` begins, if it is one. The cursor is on that word if
`isHere`, and after it otherwise, where fewer lexemes may follow. -/
def wordDeclaration? (g : Grammar) (start : Nat) (first : String) (isHere : Bool) :
    Reader (Option Span) := do
  let skip : Reader Unit := if isHere then advance else pure ()
  let cursor ← cursor
  let named := isHere || cursor.isIdentifier
  match first with
  | "abstract" =>
    unless isHere || (cursor.isWord "class" && !cursor.newline) do return none
    skip
    let _ ← g.classRest true
    return some (← spanFrom start)
  | "enum" =>
    unless named do return none
    skip
    return some (← g.enumRest start)
  | "interface" =>
    unless named do return none
    skip
    return some (← g.interfaceRest start)
  | "module" =>
    if cursor.newline then return none
    skip
    if (← Reader.cursor).isString then return some (← g.moduleRest start)
    unless named do return none
    return some (← g.namespaceRest start)
  | "namespace" =>
    unless named do return none
    skip
    return some (← g.namespaceRest start)
  | "type" =>
    unless isHere || (!cursor.newline && cursor.isIdentifier) do return none
    skip
    return some (← g.aliasRest start)
  | _ => return none

/-- What follows `declare`, if it is a declaration. -/
def ambient? (g : Grammar) (start : Nat) : Reader (Option Span) :=
  withReader (fun s => { s with inDeclare := true }) do
    let cursor ← cursor
    if cursor.isWord "function" then
      g.function false false true
      return some (← spanFrom start)
    else if cursor.isWord "class" then return some (← g.classDeclaration start)
    else if cursor.isWord "const" && cursor.next.isWord "enum" then
      advance
      advance
      return some (← g.enumRest start)
    else if cursor.isWord "const" || cursor.isWord "var" || cursor.isWord "let" then
      let _ ← g.variableList false
      return some (← spanFrom start)
    else if cursor.isWord "global" then return some (← g.moduleRest start)
    else match cursor.word? with
      | some word => g.wordDeclaration? start word true
      | none => return none

/-- The declaration that a word with which a statement has started begins, if it is one; the
cursor is after that word. -/
def contextual? (g : Grammar) (start : Nat) (word : String) : Reader (Option Span) := do
  match word with
  | "declare" => g.ambient? start
  | "global" =>
    if ← atMark "\x7b" then
      g.namespaceBody
      return some (← spanFrom start)
    else return none
  | _ => g.wordDeclaration? start word false

end SfcWeave.Script.Grammar
