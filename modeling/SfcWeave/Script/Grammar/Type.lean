import SfcWeave.Script.Grammar.Binding
import SfcWeave.Script.Grammar.Template

/-!
# Types

The grammar of types. Nothing of a type is kept: it is read to find where it ends.
-/

namespace SfcWeave.Script.Grammar

open Reader

/-- The parameters of a signature after its opening parenthesis, which may not have values. -/
def signatureParameters (g : Grammar) : Reader (List (Option Binding)) := do
  let parameters ← g.parameters
  if parameters.any Option.isNone then unexpected
  expect ")"
  return parameters

/-- The type parameters, parameters and result type of a signature. -/
def signature (g : Grammar) : Reader Unit := do
  g.typeParametersIfAny
  expect "("
  let _ ← g.signatureParameters
  g.resultTypeIfAny

/-- The key of a member of an object type. -/
def typeMemberKey (g : Grammar) : Reader Unit := do
  if ← accept "[" then
    let _ ← g.assignment
    expect "]"
  else
    let cursor ← cursor
    if cursor.isName || cursor.isString || cursor.isNumber then advance else unexpected

/-- The accessor of an object type after its optional modifiers. -/
def typeAccessor (g : Grammar) : Reader Unit := do
  let isGetter ← acceptWord "get"
  unless isGetter do expectWord "set"
  g.typeMemberKey
  expect "("
  if isGetter then
    expect ")"
    g.annotation
  else if (← g.signatureParameters).isEmpty then unexpected
  memberEnd

/-- A member of an object type. -/
def typeMember (g : Grammar) : Reader Unit := do
  if (← cursor).isOneOf ["(", "<"] then
    g.signature
    memberEnd
  else if (← atWord "new") && (← peek).isOneOf ["(", "<"] then
    advance
    g.signature
    memberEnd
  else
    let isReadonly := (← modifier? ["readonly"]).isSome
    if ← g.indexSignature? then return
    let accessor ← attempt do
      if isReadonly then unexpected
      g.typeAccessor
      return some ()
    if accessor.isSome then return
    g.typeMemberKey
    let _ ← accept "?"
    if (← cursor).isOneOf ["(", "<"] then
      if isReadonly then unexpected
      g.signature
    else g.annotation
    memberEnd

/-- The members of an object type in braces. -/
def objectType (g : Grammar) : Reader Unit := do
  expect "\x7b"
  let _ ← whileHolds (return !(← atMark "\x7d")) g.typeMember
  expect "\x7d"

/-- Does a mapped type start at the brace under the cursor? -/
def atMappedType : Reader Bool := lookAhead do
  expect "\x7b"
  if (← cursor).isOneOf ["+", "-"] then
    advance
    return ← atWord "readonly"
  let _ ← acceptWord "readonly"
  expect "["
  let isName := (← cursor).isIdentifier
  advance
  return isName && (← atWord "in")

/-- A mapped type such as `\{ [K in T]?: U }`. -/
def mappedType (g : Grammar) : Reader Unit := do
  expect "\x7b"
  if (← cursor).isOneOf ["+", "-"] then
    advance
    expectWord "readonly"
  else
    let _ ← acceptWord "readonly"
  expect "["
  let _ ← name
  expectWord "in"
  g.fullType
  g.typeAfter (acceptWord "as")
  expect "]"
  if (← cursor).isOneOf ["+", "-"] then
    advance
    expect "?"
  else
    let _ ← accept "?"
  g.annotation
  expectEnd
  expect "\x7d"

/-- The name of an element of a tuple type, if it has one. -/
def tupleName : Reader Unit := do
  let _ ← attempt do
    let _ ← accept "..."
    let _ ← name
    let _ ← accept "?"
    expect ":"
    return some ()

/-- A tuple type. -/
def tupleType (g : Grammar) : Reader Unit := do
  expect "["
  listed (·.isMark "]") do
    tupleName
    if ← accept "..." then g.fullType
    else
      g.fullType
      let _ ← accept "?"
  expect "]"

/-- A name with the names of the namespaces it stands in. -/
def qualifiedName : Reader Unit := do
  let _ ← name
  let _ ← repeatUntil () fun _ => do
    if ← accept "." then
      if (← cursor).isName then advance; return .inl ()
      else return .inr ()
    else return .inr ()

/-- Type arguments on the same line, if there are any. -/
def typeArgumentsIfAny (g : Grammar) : Reader Unit := do
  if !(← cursor).newline && (← atAngle) then g.typeArguments

/-- An import type such as `import('m').T`. -/
def importType (g : Grammar) : Reader Unit := do
  expectWord "import"
  expect "("
  if (← cursor).isEnd then unexpected
  advance
  if ← accept "," then
    unless ← atMark ")" do let _ ← g.assignment
    let _ ← accept ","
  expect ")"
  if ← accept "." then qualifiedName
  if ← atAngle then g.typeArguments

/-- Is this the name of a type of the language? -/
def isBasicType (word : String) : Bool :=
  ["void", "null", "any", "boolean", "bigint", "never", "number", "object", "string", "symbol",
    "unknown", "undefined", "intrinsic"].contains word

/-- A predicate on `this`, after that word. -/
def thisPredicate (g : Grammar) : Reader Unit := do
  if ← onSameLine (acceptWord "is") then g.fullType

/-- A type without operators, brackets and alternatives. -/
def simpleType (g : Grammar) : Reader Unit := do
  let cursor ← cursor
  match cursor.lexeme with
  | .string _ | .number | .bigint => advance
  | .word text _ =>
    if cursor.isWord "true" || cursor.isWord "false" then advance
    else if cursor.isWord "import" then g.importType
    else if cursor.isWord "this" then
      advance
      g.thisPredicate
    else if cursor.isWord "typeof" then
      advance
      if ← atWord "import" then g.importType else qualifiedName
      g.typeArgumentsIfAny
    else if cursor.isWord "asserts" && cursor.next.isWord "this" then
      advance
      advance
      g.thisPredicate
    else if isBasicType text && !cursor.next.isMark "." then advance
    else if keywords.contains text && ! (["void", "null", "break"].contains text) then unexpected
    else
      let _ ← skipAccessModifier
      qualifiedName
      g.typeArgumentsIfAny
  | .mark "\x60" => template g.fullType
  | .mark "-" =>
    advance
    if (← Reader.cursor).isNumber then advance else unexpected
  | .mark "\x7b" => if ← atMappedType then g.mappedType else g.objectType
  | .mark "[" => g.tupleType
  | .mark "(" =>
    advance
    g.fullType
    expect ")"
  | _ => unexpected

/-- A type with the brackets of arrays and indices. -/
def arrayType (g : Grammar) : Reader Unit := do
  g.simpleType
  let _ ← whileHolds (onSameLine (accept "[")) do
    unless ← accept "]" do
      g.fullType
      expect "]"

/-- The constraint of an inferred type, if there is one and it is not the condition of a
conditional type. -/
def inferConstraint (g : Grammar) : Reader Unit := do
  let _ ← attempt do
    expectWord "extends"
    withReader (fun s => { s with conditionalTypes := false }) g.plainType
    if !(← read).conditionalTypes || !(← atMark "?") then return some ()
    else return none

/-- A type with its operators. -/
def typeOperatorBody (g : Grammar) : Reader Unit := do
  let cursor ← cursor
  if cursor.isWord "keyof" || cursor.isWord "unique" || cursor.isWord "readonly" then
    advance
    g.typeOperator
  else if cursor.isWord "infer" then
    advance
    let _ ← name
    g.inferConstraint
  else g.arrayType

/-- Types with an operator between them, which may also stand before the first. -/
def joinedTypes (mark : String) (part : Reader Unit) : Reader Unit := do
  let _ ← accept mark
  part
  let _ ← whileHolds (accept mark) part

/-- The start of a parameter: a modifier, and a name or a pattern. -/
def parameterStart (g : Grammar) : Reader Bool := do
  let _ ← skipAccessModifier
  let cursor ← cursor
  if cursor.isIdentifier || cursor.isWord "this" then
    advance
    return true
  else if cursor.isOneOf ["\x7b", "["] then
    let _ ← g.binding
    return true
  else return false

/-- Does a function type start at the cursor? -/
def atFunctionType (g : Grammar) : Reader Bool := do
  if ← atMark "<" then return true
  unless ← atMark "(" do return false
  lookAhead do
    expect "("
    if (← cursor).isOneOf [")", "..."] then return true
    if ← g.parameterStart then
      if (← cursor).isOneOf [":", ",", "?", "="] then return true
      if (← accept ")") && (← atMark "=>") then return true
    return false

/-- The signature of a function type. -/
def functionType (g : Grammar) : Reader Unit := do
  g.typeParametersIfAny
  expect "("
  let _ ← g.signatureParameters
  g.resultType "=>"

/-- A type that is not conditional. -/
def plainTypeBody (g : Grammar) : Reader Unit := do
  let cursor ← cursor
  if ← g.atFunctionType then g.functionType
  else if cursor.isWord "new" || (cursor.isWord "abstract" && cursor.next.isWord "new") then
    let _ ← acceptWord "abstract"
    advance
    g.functionType
  else joinedTypes "|" (joinedTypes "&" g.typeOperator)

/-- A type. -/
def typeBody (g : Grammar) : Reader Unit := do
  g.plainType
  if ← onlyIf (← read).conditionalTypes (onSameLine (acceptWord "extends")) then
    withReader (fun s => { s with conditionalTypes := false }) g.plainType
    expect "?"
    g.type
    expect ":"
    g.type

end SfcWeave.Script.Grammar
