import SfcWeave.Script.Grammar.Annotation

/-!
# Names, bindings and parameters
-/

namespace SfcWeave.Script.Grammar

open Reader

/-- A name for a variable, a function or a class. Keywords cannot be names, except `this`, which
may name a parameter; nor can `await`, in a module. -/
def identifier (allowYield : Bool) : Reader String := do
  let cursor ← cursor
  match cursor.word? with
  | none => unexpected
  | some text =>
    advance
    let inDeclare := (← read).inDeclare
    let isFree :=
      if text == "this" then true
      else if text == "await" then inDeclare
      else if text == "yield" then allowYield
      else !keywords.contains text
    if isFree then return text
    else fail .reservedName cursor.span

/-- The key of a member. -/
def propertyKey (g : Grammar) : Reader PropertyKey := do
  match (← cursor).lexeme with
  | .string value => advance; return .string value
  | .number | .bigint => advance; return .other
  | .word text _ => advance; return .name text
  | .mark "[" =>
    advance
    let _ ← withReader (fun s => { s with allowIn := true }) do
      let _ ← g.assignment
      whileHolds (accept ",") g.assignment
    expect "]"
    return .other
  | .mark "#" => advance; let _ ← name; return .other
  | _ => unexpected

/-- A binding with the value it takes when none is given. -/
def bindingElement (g : Grammar) : Reader (Option Binding) := do
  let binding ← g.binding
  if ← accept "=" then
    let _ ← withReader (fun s => { s with allowIn := true }) g.assignment
    return none
  else return some binding

/-- Ambient declarations may mark a pattern as optional. -/
def optionalMark : Reader Unit := do
  if (← read).inDeclare then let _ ← accept "?"

/-- The bindings in an array pattern. -/
def arrayPattern (g : Grammar) : Reader Unit := do
  expect "["
  let _ ← whileHolds (before "]") do
    unless ← accept "," do
      if ← accept "..." then let _ ← g.binding
      else let _ ← g.bindingElement
      unless ← atMark "]" do expect ","
  expect "]"
  optionalMark

/-- A binding in an object pattern. -/
def patternMember (g : Grammar) : Reader Unit := do
  if ← accept "..." then
    let _ ← g.binding
  else
    let key ← g.propertyKey
    if ← accept ":" then let _ ← g.bindingElement
    else
      match key with
      | .name _ =>
        if ← accept "=" then
          let _ ← withReader (fun s => { s with allowIn := true }) g.assignment
      | _ => unexpected

/-- The bindings in an object pattern. -/
def objectPattern (g : Grammar) : Reader Unit := do
  expect "\x7b"
  let _ ← whileHolds (return !(← atMark "\x7d")) do
    g.patternMember
    unless ← atMark "\x7d" do expect ","
  expect "\x7d"
  optionalMark

/-- A name or a pattern. -/
def bindingBody (g : Grammar) : Reader Binding := do
  match (← cursor).lexeme with
  | .word .. => let _ ← identifier true; return .name
  | .mark "[" => g.arrayPattern; return .pattern
  | .mark "\x7b" => g.objectPattern; return .pattern
  | _ => unexpected

/-- The arguments of a call. -/
def arguments (g : Grammar) : Reader (List Argument) :=
  withReader (fun s => { s with colonEnds := false, allowIn := true }) do
    expect "("
    let values ← separated ")" do
      if ← accept "..." then return .spread (← g.assignment)
      else return .plain (← g.assignment)
    expect ")"
    return values

/-- A decorator. -/
def decorator (g : Grammar) : Reader Expr := do
  expect "@"
  if ← accept "(" then
    let value ← g.assignment
    let more ← whileHolds (accept ",") g.assignment
    expect ")"
    if ← atMark "(" then return .call .other (← g.arguments)
    return if more.isEmpty then value else .other
  else
    let name ← identifier false
    g.subscripts true false (.identifier name)

/-- The decorators in front of a declaration. -/
def decorators (g : Grammar) : Reader (List Expr) := whileHolds (atMark "@") g.decorator

/-- A parameter that is not a rest parameter; `none` if it has a value for when it is missing. -/
def parameter (g : Grammar) : Reader (Option Binding) := do
  let _ ← skipAccessModifier
  let binding ← g.bindingElement
  if ← atMark "?" then
    if binding.isNone && !(← read).inDeclare then
      fail .optionalPattern (← cursor).span
    advance
  g.annotation
  if ← accept "=" then
    let _ ← g.assignment
    return none
  else return binding

/-- A rest parameter after its dots. -/
def restParameter (g : Grammar) : Reader Unit := do
  let _ ← g.binding
  if ← accept "=" then let _ ← g.assignment
  g.annotation
  let _ ← accept "?"

/-- The parameters of a function up to the closing parenthesis, each `none` if it has a value for
when it is missing. -/
def parameters (g : Grammar) : Reader (List (Option Binding)) :=
  separated ")" do
    let _ ← g.decorators
    if ← accept "..." then
      g.restParameter
      return some .pattern
    else g.parameter

end SfcWeave.Script.Grammar
