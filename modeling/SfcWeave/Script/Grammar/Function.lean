import SfcWeave.Script.Grammar.Binding

/-!
# Functions and classes
-/

namespace SfcWeave.Script.Grammar

open Reader

/-! ### Functions -/

/-- Statements in braces. The end of the script closes them too. -/
def block (g : Grammar) : Reader Unit := do
  expect "\x7b"
  let _ ← whileHolds (before "\x7d") (g.statement true)
  let _ ← accept "\x7d"

/-- Reads with the surroundings of the body of a function. -/
def inBody {α : Type} (isAsync isGenerator : Bool) (reader : Reader α) : Reader α :=
  withReader (fun s => { s with
    inAsync := isAsync
    inGenerator := isGenerator
    allowIn := true
    moduleLevel := false
    inConditional := false
    colonEnds := false }) reader

/-- The body of a function; it may be missing. -/
def functionBody (g : Grammar) (isAsync isGenerator : Bool) : Reader Bool := do
  if ← onlyIf (!(← atMark "\x7b")) acceptEnd then return false
  inBody isAsync isGenerator g.block
  return true

/-- A function from its type parameters on. The result tells whether it has a body. -/
def functionRest (g : Grammar) (isAsync isGenerator : Bool) : Reader Bool := do
  withReader (fun s => { s with
      inAsync := isAsync, inGenerator := isGenerator, colonEnds := false,
      inConditional := false }) do
    g.typeParametersIfAny
    expect "("
    let _ ← g.parameters
    expect ")"
    g.resultTypeIfAny
  g.functionBody isAsync isGenerator

/-- Is a name that may be bound under the cursor? -/
def atBindingName : Reader Bool := return (← cursor).isIdentifier

/-- A function from its keyword on. Declarations have a name, except for default exports;
expressions may have one, and have a body. -/
def function (g : Grammar) (isAsync isExpression needsName : Bool) : Reader Unit := do
  expectWord "function"
  let isGenerator ← accept "*"
  if needsName || (← atBindingName) then let _ ← identifier true
  let hasBody ← g.functionRest isAsync isGenerator
  if isExpression && !hasBody then unexpected

/-- The body of an arrow function: statements in braces or an expression. The result tells
whether it has braces. -/
def arrowBody (g : Grammar) (isAsync : Bool) : Reader Bool := do
  if ← atMark "\x7b" then
    inBody isAsync false g.block
    return true
  else
    withReader (fun s => { s with inAsync := isAsync, inGenerator := false }) do
      let _ ← g.assignment
    return false

/-! ### Members of classes -/

/-- Does the rest of a method follow? -/
def atMethod : Reader Bool := return (← cursor).isOneOf ["(", "<"]

/-- Does the rest of a property follow? It may be nothing but the end of a line if `lineEnds`. -/
def atProperty (lineEnds : Bool) : Reader Bool := do
  let cursor ← cursor
  return cursor.isOneOf ["!", ":", "=", "\x7d", ";"] || (lineEnds && cursor.endsStatement)

/-- A method from its type parameters on. -/
def method (g : Grammar) (isAsync isGenerator : Bool) : Reader Unit := do
  let _ ← withReader (fun s => { s with allowIn := true }) (g.functionRest isAsync isGenerator)

/-- A property after its key. -/
def property (g : Grammar) : Reader Unit := do
  let _ ← accept "!"
  g.annotation
  if ← accept "=" then
    let _ ← withReader (fun s => { s with allowIn := true, colonEnds := false }) g.assignment
  let _ ← acceptEnd

/-- The rest of a member whose key is a modifier's word after all, if this is one. -/
def memberNamedByModifier (g : Grammar) (lineEnds : Bool) : Reader Bool := do
  if ← atMethod then
    g.method false false
    return true
  else if (← atProperty lineEnds) || (← atMark "?") then
    if ← accept "?" then
      if ← atMethod then
        g.method false false
        return true
    g.property
    return true
  else return false

/-- A parameter of a constructor, which may declare a property. -/
def constructorParameter (g : Grammar) : Reader Unit := do
  let access ← modifier? ["public", "protected", "private", "in", "out"]
  let override ← modifier? ["override"]
  let readonly ← modifier? ["readonly"]
  let start ← position
  let binding ← g.parameter
  if (access.isSome || override.isSome || readonly.isSome) && binding == some .pattern then
    fail .unexpectedToken (← spanFrom start)

/-- A constructor after its key. -/
def constructor (g : Grammar) : Reader Unit := do
  g.typeParametersIfAny
  withReader (fun s => { s with inAsync := false, inGenerator := false }) do
    expect "("
    let _ ← separated ")" do
      let _ ← g.decorators
      if ← accept "..." then
        let _ ← g.binding
        g.annotation
      else g.constructorParameter
    expect ")"
    g.annotation
  let _ ← g.functionBody false false

/-- A block of statements that runs when the class is made. -/
def staticBlock (g : Grammar) : Reader Unit := inBody false false g.block

/-- A member of a class after the modifiers that stand first. -/
def memberRest (g : Grammar) (isStatic hasAccess : Bool) : Reader Unit := do
  let found ← repeatUntil [] fun found => do
    match ← modifier? ["abstract", "readonly", "override", "static"] true with
    | some word => return .inl (word :: found)
    | none => return .inr found
  let isStatic := isStatic || found.contains "static"
  let cursor ← cursor
  if cursor.isWord "accessor" && (cursor.next.isName || cursor.next.isString ||
      cursor.next.isNumber || cursor.next.isOneOf ["[", "#"]) && !cursor.next.newline then
    advance
  if isStatic && (← atMark "\x7b") then return ← g.staticBlock
  if (← atWord "static") && (← peek).isMark "\x7b" then
    advance
    return ← g.staticBlock
  unless found.contains "abstract" || found.contains "override" || hasAccess do
    if ← g.indexSignature? then return
  if ← accept "*" then
    let _ ← g.propertyKey
    return ← g.method false true
  let key ←
    if found.contains "readonly" && (← Reader.cursor).isOneOf ["!", ":"] then
      pure (.name "readonly")
    else g.propertyKey
  let _ ← accept "?"
  if ← atMethod then
    if key.text? == some "constructor" && !isStatic then return ← g.constructor
    return ← g.method false false
  let cursor ← Reader.cursor
  let startsGenerator := cursor.newline && cursor.isMark "*"
  let isAccessor :=
    (key == .name "get" || key == .name "set") && !(← atProperty false) && !startsGenerator
  if !isAccessor && (← atProperty true) then return ← g.property
  if key == .name "async" && !cursor.newline then
    let isGenerator ← accept "*"
    let _ ← g.propertyKey
    let _ ← accept "?"
    return ← g.method true isGenerator
  if isAccessor then
    let _ ← g.propertyKey
    return ← g.method false false
  unexpected

/-- A member of a class. -/
def classMember (g : Grammar) : Reader Unit := do
  if ← accept ";" then return
  let _ ← g.decorators
  let declareFirst ← acceptWord "declare"
  let access ← modifier? ["public", "protected", "private", "in", "out"]
  let isDeclare := (← if declareFirst then pure true else acceptWord "declare")
  if isDeclare then
    if ← g.memberNamedByModifier true then return
  let isStatic ← acceptWord "static"
  if isStatic then
    if ← g.memberNamedByModifier false then return
  g.memberRest isStatic access.isSome

/-! ### Classes -/

/-- What follows `extends` in a class. -/
def superclass (g : Grammar) : Reader Unit := do
  let _ ← g.leftHand
  if ← atAngle then g.typeArguments

/-- The types that a class or an interface is declared to satisfy. -/
def heritage (g : Grammar) : Reader Unit :=
  listed (fun c => c.isMark "\x7b" || c.isWord "implements" || c.isWord "extends") do
    let text ← name
    let _ ← g.subscripts false false (.identifier text)
    if ← atAngle then g.typeArguments

/-- A class from its keyword on, with its name. -/
def classRest (g : Grammar) (needsName : Bool) : Reader (Option String) := do
  expectWord "class"
  let name ←
    if needsName || (← atBindingName) then
      if ← atWord "let" then unexpected
      pure (some (← identifier true))
    else pure none
  g.typeParametersIfAny
  if ← acceptWord "extends" then
    g.superclass
    if ← accept "," then g.heritage
  if ← acceptWord "extends" then g.superclass
  if ← acceptWord "implements" then g.heritage
  if ← acceptWord "implements" then g.heritage
  if ← acceptWord "extends" then g.superclass
  expect "\x7b"
  let _ ← whileHolds (before "\x7d") g.classMember
  expect "\x7d"
  return name

end SfcWeave.Script.Grammar
