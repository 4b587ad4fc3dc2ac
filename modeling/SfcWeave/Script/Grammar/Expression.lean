import SfcWeave.Script.Grammar.Function
import SfcWeave.Script.Grammar.Template

/-!
# Expressions

What may be an expression or the parameters of an arrow function is read as expressions, and taken
for parameters when the arrow is met.
-/

namespace SfcWeave.Script.Grammar

open Reader

/-- Reads with `in` as an operator. -/
def withIn {α : Type} (reader : Reader α) : Reader α :=
  withReader (fun s => { s with allowIn := true }) reader

/-- An expression, possibly of several parts with commas between them. -/
def expression (g : Grammar) : Reader Expr := do
  let first ← g.assignment
  if ← atMark "," then
    let _ ← whileHolds (accept ",") g.assignment
    return .other
  else return first

/-- An expression whose tree is not needed. -/
def skipExpression (g : Grammar) : Reader Unit := do
  let _ ← withIn g.expression

/-! ### Expressions as patterns -/

mutual

/-- The first method in an expression that is to be a pattern, which cannot hold one. -/
def methodInPattern? : Expr → Option Span
  | .object _ members => methodInMembers? members
  | .array elements => methodInElements? elements
  | _ => none

/-- The first method among members that are to be a pattern. -/
def methodInMembers? : List Member → Option Span
  | [] => none
  | .method span :: _ => some span
  | .keyValue _ value :: rest => (methodInPattern? value).or (methodInMembers? rest)
  | .spread value :: rest => (methodInPattern? value).or (methodInMembers? rest)
  | .shorthand _ :: rest => methodInMembers? rest
  | .withDefault _ :: rest => methodInMembers? rest

/-- The first method among elements that are to be a pattern. -/
def methodInElements? : List Element → Option Span
  | [] => none
  | .item value :: rest => (methodInPattern? value).or (methodInElements? rest)
  | .spread value :: rest => (methodInPattern? value).or (methodInElements? rest)
  | .hole :: rest => methodInElements? rest

end

/-- Takes an expression for a pattern. -/
def asPattern (value : Expr) : Reader Unit :=
  match methodInPattern? value with
  | some span => fail .methodInPattern span
  | none => return

/-! ### Operators -/

/-- The operators and operands after a first operand. -/
def binaryRest (g : Grammar) (left : Expr) : Reader Expr :=
  repeatUntil left fun left => do
    let cursor ← cursor
    if !cursor.newline && (cursor.isWord "as" || cursor.isWord "satisfies") then
      advance
      if cursor.isWord "as" && (← atWord "const") then advance else g.fullType
      return .inl .other
    else if (cursor.isWord "in" && (← read).allowIn) || cursor.isWord "instanceof" then
      advance
      let _ ← g.unary
      return .inl .operation
    else if cursor.isBinary then
      setCursor cursor.joinGreater
      advance
      let _ ← g.unary
      return .inl .operation
    else return .inr left

/-- Operands with operators between them. A first operand that is missing in front of an operator
is passed over. -/
def binary (g : Grammar) : Reader Expr := do
  let left ←
    try g.unary
    catch error =>
      let cursor ← cursor
      if (cursor.isWord "in" && (← read).allowIn) || cursor.isWord "instanceof" ||
          cursor.isBinary then
        pure .other
      else throw error
  match left with
  | .arrow => return .arrow
  | _ => g.binaryRest left

/-- Reads the branches of a conditional expression after its question mark. -/
def branches (g : Grammar) : Reader Unit := do
  let _ ← withReader
    (fun s => { s with inConditional := true, colonEnds := true, allowIn := true }) g.assignment
  expect ":"
  let _ ← withReader (fun s => { s with inConditional := true, colonEnds := false }) g.assignment

/-- Operands with operators between them, and the branches of a conditional expression. -/
def conditional (g : Grammar) : Reader Expr := do
  let test ← g.binary
  match test with
  | .arrow => return .arrow
  | _ =>
    if ← accept "?" then
      g.branches
      return .operation
    else return test

/-- The rest of an expression that may be the target of an assignment. -/
def assignmentRest (g : Grammar) (target : Expr) : Reader Expr := do
  let cursor := (← cursor).joinGreater
  if cursor.isMark "=" then asPattern target
  if cursor.isMark "=" || cursor.isOneOf assignmentMarks then
    setCursor cursor
    advance
    let _ ← g.assignment
    return .other
  else return target

/-- A `yield` and what it yields. -/
def yieldExpression (g : Grammar) : Reader Expr := do
  expectWord "yield"
  let cursor ← cursor
  let startsOperand :=
    match cursor.lexeme with
    | .mark text =>
      ["*", "/", "/=", "(", "[", "\x7b", "+", "-", "!", "~", "++", "--", "<", "`", "#",
        "@"].contains text
    | .word text _ =>
      !keywords.contains text ||
        ["null", "true", "false", "function", "new", "this", "super", "class", "import", "typeof",
          "void", "delete"].contains text
    | .string _ | .number | .bigint => true
    | _ => false
  if startsOperand && !cursor.endsStatement then
    let _ ← accept "*"
    let _ ← g.assignment
  return .other

/-- An arrow function with type parameters. -/
def genericArrow? (g : Grammar) : Reader (Option Expr) := do
  unless (← atMark "<") && (← peek).isName do return none
  withReader (fun s => { s with colonEnds := false }) <| attempt do
    g.typeParameters
    match ← g.assignment with
    | .arrow => return some .arrow
    | _ => unexpected

/-- An expression without commas. -/
def assignmentBody (g : Grammar) : Reader Expr := do
  if let some found ← g.genericArrow? then return found
  let cursor ← cursor
  if (← read).inGenerator && cursor.isWord "yield" then return ← g.yieldExpression
  let mayBeArrow :=
    match cursor.lexeme with
    | .word text _ => text == "yield" || !(keywords.contains text || ["let", "await"].contains text)
    | .mark text => text == "("
    | _ => false
  modify fun p => { p with arrowStart := if mayBeArrow then some cursor.span.start else none }
  let value ← g.conditional
  match value with
  | .arrow | .operation => return value
  | _ => g.assignmentRest value

/-- An operand of `await`, or the name `await` where there is none. -/
def awaitExpression (g : Grammar) : Reader Expr := do
  expectWord "await"
  let cursor ← cursor
  if cursor.isMark "*" then unexpected
  if !(← read).inAsync && (cursor.isOneOf [")", "]", ";", ","] || cursor.isEnd) then
    return .identifier "await"
  let _ ← g.unary
  return .other

/-- A type in angles in front of an operand. -/
def typeAssertion (g : Grammar) : Reader Expr := do
  expect "<"
  unless ← acceptWord "const" do g.fullType
  expect ">"
  let _ ← g.unary
  return .other

/-- An operand with its unary operators. An operand that cannot be read after an operator counts as
read up to where that was found. -/
def unaryBody (g : Grammar) : Reader Expr := do
  let cursor ← cursor
  if cursor.isMark "<" then g.typeAssertion
  else if cursor.isOneOf ["++", "--"] then
    advance
    let _ ← g.unary
    return .operation
  else if cursor.isOneOf ["+", "-", "~", "!"] || cursor.isWord "delete" || cursor.isWord "void" ||
      cursor.isWord "typeof" then
    advance
    let _ ← try g.unary catch _ => pure .other
    return .operation
  else if cursor.isWord "await" then g.awaitExpression
  else
    let value ← g.leftHand
    match value with
    | .arrow => return .arrow
    | _ =>
      let cursor ← Reader.cursor
      if !cursor.newline && cursor.isOneOf ["++", "--"] then
        advance
        return .operation
      else return value

/-! ### Calls and members -/

/-- Is this read from behind `?.`? -/
def isChain : Expr → Bool
  | .chain => true
  | .nonNull inner => isChain inner
  | _ => false

/-- A call of `callee`, when `optional` through `?.`. -/
def callOf (callee : Expr) (optional : Bool) (arguments : List Argument) : Expr :=
  if optional || isChain callee then .chain else .call callee arguments

/-- May an expression start with the lexeme under the cursor? -/
def startsExpression (cursor : Cursor) : Bool :=
  match cursor.lexeme with
  | .string _ | .number | .bigint => true
  | .mark text =>
    ["(", "[", "\x7b", "+", "-", "~", "!", "++", "--", "<", "`", "/", "/=", "#", "@"].contains text
  | .word text _ =>
    !keywords.contains text ||
      ["null", "true", "false", "function", "new", "this", "super", "class", "import", "typeof",
        "void", "delete"].contains text
  | _ => false

/-- Type arguments that are not those of a call, if there are any: what follows must not make an
operator of the angles. -/
def instantiation (g : Grammar) : Reader Bool := do
  unless ← atAngle do return false
  let found ← attempt do
    g.typeArguments
    let cursor ← cursor
    if cursor.isOneOf ["<", ">", "+", "-", "(", "`"] then return none
    if cursor.newline || cursor.isBinary || !startsExpression cursor then return some ()
    return none
  return found.isSome

/-- The name of a member, or a private name. -/
def memberName : Reader Unit := do
  let _ ← accept "#"
  let _ ← name

/-- What follows type arguments: a call, a template literal, or an operator on the instantiated
value, which ends what is read from it. -/
def typedSubscript? (g : Grammar) (calls : Bool) (value : Expr) :
    Reader (Option (Expr ⊕ Expr)) := do
  unless ← atAngle do return none
  attempt do
    g.typeArguments
    let cursor ← cursor
    if calls && cursor.isMark "(" then
      return some (.inl (callOf value false (← g.arguments)))
    else if cursor.isMark "`" then
      template g.skipExpression
      return some (.inl .other)
    else if cursor.isMark "=" || cursor.isWord "as" || cursor.isWord "satisfies" then
      return some (.inr .other)
    else unexpected

/-- One step of what is read from a value or called on it. -/
def subscript (g : Grammar) (calls indices : Bool) (value : Expr) : Reader (Expr ⊕ Expr) := do
  if ← onSameLine (accept "!") then return .inl (.nonNull value)
  if let some result ← g.typedSubscript? calls value then return result
  let instantiated ← g.instantiation
  let optional ← accept "?."
  if optional && (← atAngle) then g.typeArguments
  let member := if optional || isChain value then Expr.chain else .other
  if ← onlyIf indices (accept "[") then
    g.skipExpression
    expect "]"
    return .inl member
  else if (optional || calls) && (← atMark "(") then
    return .inl (callOf value optional (← g.arguments))
  else if optional || (← atMark ".") then
    unless optional do advance
    memberName
    let _ ← g.instantiation
    return .inl member
  else if ← atMark "`" then
    withReader (fun s => { s with colonEnds := false }) (template g.skipExpression)
    return .inl .other
  else return .inr (if instantiated then .other else value)

/-- What is read from a value and called on it. -/
def subscriptsBody (g : Grammar) (calls indices : Bool) (value : Expr) : Reader Expr :=
  repeatUntil value (g.subscript calls indices)

/-- What follows `super`. -/
def superRest (g : Grammar) (calls : Bool) : Reader Expr := do
  expectWord "super"
  unless (← cursor).isOneOf ["[", ".", "?."] || (calls && (← atMark "(")) do unexpected
  g.subscripts calls true .other

/-- What follows `import` in an expression. -/
def importRest (g : Grammar) (calls : Bool) : Reader Expr := do
  expectWord "import"
  if ← accept "." then
    let cursor ← cursor
    unless cursor.isWord "meta" || cursor.isWord "defer" || cursor.isWord "source" do unexpected
    advance
    g.subscripts calls true .other
  else
    unless calls && (← atMark "(") do unexpected
    g.subscripts calls true .other

/-- Type arguments in front of the arguments of a call. -/
def callTypeArguments (g : Grammar) : Reader Unit := do
  if ← atAngle then
    let _ ← attempt do
      g.typeArguments
      if ← atMark "(" then return some () else return none

/-- What follows `new`. -/
def newRest (g : Grammar) : Reader Expr := do
  expectWord "new"
  if ← accept "." then
    expectWord "target"
    return ← g.subscripts false true .other
  let start ← position
  let callee ← g.callee
  match callee with
  | .arrow => return .arrow
  | .chain => fail .unexpectedToken (← spanFrom start)
  | _ =>
    g.callTypeArguments
    if ← atMark "(" then
      let _ ← g.arguments
      g.subscripts false true .other
    else return .other

/-! ### Literals -/

/-- An array literal. -/
def arrayLiteral (g : Grammar) : Reader Expr := do
  expect "["
  let elements ← withIn <| repeatUntil [] fun read => do
    if ← atMark "]" then return .inr read.reverse
    else if ← accept "," then return .inl (.hole :: read)
    else
      let element ←
        if ← accept "..." then pure (.spread (← g.assignment))
        else pure (.item (← g.assignment))
      if ← accept "," then return .inl (element :: read)
      else return .inr (element :: read).reverse
  expect "]"
  return .array elements

/-- A method of an object literal from its type parameters on. -/
def literalMethod (g : Grammar) (start : Nat) (isAsync isGenerator : Bool) : Reader Member := do
  g.method isAsync isGenerator
  return .method (← spanFrom start)

/-- A member of an object literal. A key that is no name may stand by itself before the closing
brace. -/
def literalMember (g : Grammar) : Reader Member := do
  let start ← position
  if ← accept "..." then return .spread (← withIn g.assignment)
  if ← accept "*" then
    let _ ← g.propertyKey
    return ← g.literalMethod start false true
  let _ ← skipAccessModifier
  let key ← g.propertyKey
  let cursor ← cursor
  let mayFollow :=
    cursor.isOneOf ["(", "[", ":", ",", "?", "=", "*", "<"] || cursor.isName || cursor.isString ||
      cursor.isNumber
  let isName := match key with
    | .name _ => true
    | _ => false
  if !mayFollow && !(cursor.isMark "\x7d" && isName) then return .keyValue key .other
  if ← accept ":" then return .keyValue key (← withIn g.assignment)
  if ← atMethod then return ← g.literalMethod start false false
  match key with
  | .name text =>
    let _ ← accept "?"
    if ← accept "=" then
      let _ ← withIn g.assignment
      return .withDefault text
    if (← atMark ",") || (← atMark "\x7d") then return .shorthand text
    if text == "get" || text == "set" then
      let _ ← g.propertyKey
      g.literalMethod start false false
    else if text == "async" then
      let isGenerator ← accept "*"
      let _ ← g.propertyKey
      g.literalMethod start true isGenerator
    else unexpected
  | _ => unexpected

/-- An object literal. -/
def objectLiteral (g : Grammar) : Reader Expr :=
  withReader (fun s => { s with colonEnds := false }) do
    let start ← position
    expect "\x7b"
    let members ← whileHolds (return !(← atMark "\x7d")) do
      let member ← g.literalMember
      unless ← atMark "\x7d" do expect ","
      return member
    expect "\x7d"
    return .object (← spanFrom start) members

/-! ### Parentheses -/

/-- What stands in parentheses until it is known whether an arrow follows them. -/
inductive Parenthesized where
  | value (value : Expr)
  | spread (value : Expr)
  /-- A parameter with an annotation or a question mark. -/
  | parameter

/-- An element in parentheses that starts with a name, possibly behind dots. -/
def namedElement (g : Grammar) : Reader (Bool × Expr) := do
  if ← accept "..." then return (true, ← withIn g.binary)
  else return (false, ← g.assignmentRest (← g.binary))

/-- An element in parentheses. -/
def parenthesizedElement (g : Grammar) : Reader Parenthesized := do
  let isAsync := (← atWord "async") &&
    ((← peek).isMark "(" || (← peek).isName)
  let arrowAt ← position
  modify fun p => { p with arrowStart := some arrowAt }
  let _ ← skipAccessModifier
  let start ← position
  let cursor ← cursor
  let (isSpread, value) ←
    if cursor.isIdentifier || (cursor.isMark "..." && cursor.next.isIdentifier) then g.namedElement
    else withIn do
      if ← accept "..." then pure (true, ← g.assignment)
      else pure (false, ← g.assignment)
  let cursor ← Reader.cursor
  let mut value := value
  let mut optional := false
  if cursor.isMark "?" then
    if cursor.next.isOneOf [",", ":", ")", "="] then
      advance
      match value with
      | .identifier _ => pure ()
      | _ => fail .optionalPattern (← spanFrom start)
      optional := true
    else if !isSpread then
      advance
      g.branches
      value := .operation
  if optional || (← atMark ":") then
    asPattern value
    g.annotation
    if ← accept "=" then let _ ← g.assignment
    return .parameter
  if ← onlyIf isAsync (accept "=>") then
    match value with
    | .identifier _ => pure ()
    | _ => fail .unexpectedToken (← spanFrom start)
    let _ ← g.arrowBody false
    return .value .arrow
  return if isSpread then .spread value else .value value

/-- Takes what stands in parentheses for the parameters of an arrow function. -/
def asParameters (elements : List Parenthesized) : Reader Unit :=
  elements.forM fun element =>
    match element with
    | .value value | .spread value => asPattern value
    | .parameter => return

/-- What stands in parentheses as the arguments of a call. -/
def asArguments (elements : List Parenthesized) : List Argument :=
  elements.map fun element =>
    match element with
    | .value value => .plain value
    | .spread value => .spread value
    | .parameter => .plain .other

/-- The arrow function whose parameters have just been read, after its result type. -/
def arrowRest (g : Grammar) (isAsync : Bool) (elements : List Parenthesized) : Reader Expr := do
  expect "=>"
  asParameters elements
  let hasBraces ← g.arrowBody isAsync
  if hasBraces && (← cursor).isBinary then
    let _ ← g.binaryRest .other
    return .operation
  return .arrow

/-- An arrow function with a result type in a branch of a conditional expression, where the colon
may also be that of the expression. -/
def arrowInBranch? (g : Grammar) (isAsync : Bool) (elements : List Parenthesized) :
    Reader (Option Expr) := do
  unless (← read).inConditional && (← atMark ":") do return none
  attempt do
    g.resultType ":"
    expect "=>"
    asParameters elements
    let _ ← g.arrowBody isAsync
    if (← read).colonEnds && !(← atMark ":") then unexpected
    return some .arrow

/-- An expression in parentheses, an arrow function, or a call of a function named `async`. -/
def parentheses (g : Grammar) (mayBeArrow isAsync : Bool) (start : Nat) : Reader Expr := do
  let elements ← withReader (fun s => { s with colonEnds := false }) do
    expect "("
    let elements ← separated ")" g.parenthesizedElement
    expect ")"
    return elements
  if let some found ← g.arrowInBranch? isAsync elements then return found
  let typed ←
    if !(← read).colonEnds && (← atMark ":") then
      attempt do
        g.resultType ":"
        if ← atMark "=>" then return some () else unexpected
    else pure none
  let hasParameter := elements.any fun element => match element with
    | .parameter => true
    | _ => false
  if hasParameter || typed.isSome || (← atMark "=>") then
    if (← cursor).newline || !mayBeArrow then fail .unexpectedToken (← spanFrom start)
    g.arrowRest isAsync elements
  else if isAsync then return .call (.identifier "async") (asArguments elements)
  else match elements with
    | [] => fail .emptyParentheses (← spanFrom start)
    | [.spread _] => fail .unexpectedToken (← spanFrom start)
    | _ => return .other

/-! ### Operands -/

/-- A name, or an arrow function with one parameter without parentheses. -/
def named (g : Grammar) (mayBeArrow : Bool) : Reader Expr := do
  let text ← name
  let cursor ← cursor
  if mayBeArrow && text == "async" && !cursor.newline && cursor.isIdentifier then
    advance
    if cursor.isWord "as" && !(← atMark "=>") then
      g.fullType
      return .other
    expect "=>"
    let _ ← g.arrowBody true
    return .arrow
  else if mayBeArrow && !cursor.newline && cursor.isMark "=>" then
    advance
    let _ ← g.arrowBody false
    return .arrow
  else return .identifier text

/-- An `async` arrow function with type parameters, after its first word. -/
def genericAsyncArrow (g : Grammar) : Reader Unit := do
  g.typeParameters
  expect "("
  let _ ← g.parameters
  expect ")"
  g.resultTypeIfAny
  expect "=>"
  let _ ← g.arrowBody true

/-- An operand that starts with the word `async`. -/
def asyncOperand (g : Grammar) (mayBeArrow : Bool) : Reader Expr := do
  let start ← position
  let next ← peek
  if next.isWord "function" && !next.newline then
    advance
    g.function true true false
    return .other
  if mayBeArrow && next.isMark "<" then
    let found ← attempt do
      advance
      g.genericAsyncArrow
      return some ()
    if found.isSome then return .arrow
  if mayBeArrow && next.isMark "(" && !next.newline then
    advance
    return ← g.parentheses mayBeArrow true start
  g.named mayBeArrow

/-- An operand by itself. -/
def operand (g : Grammar) : Reader Expr := do
  let cursor ← cursor
  let start := cursor.span.start
  let mayBeArrow := (← get).arrowStart == some start
  match cursor.lexeme with
  | .string _ | .number | .bigint => advance; return .other
  | .mark "[" => g.arrayLiteral
  | .mark "\x7b" => g.objectLiteral
  | .mark "(" => g.parentheses mayBeArrow false start
  | .mark "`" =>
    withReader (fun s => { s with colonEnds := false }) (template g.skipExpression)
    return .other
  | .mark "/" | .mark "/=" =>
    setCursor cursor.asPattern
    unless (← Reader.cursor).isNumber do unexpected
    advance
    return .other
  | .mark "@" =>
    let _ ← g.decorators
    let _ ← g.classRest false
    return .other
  | .mark "#" => advance; let _ ← name; return .other
  | .word text _ =>
    if cursor.isWord "this" || cursor.isWord "null" || cursor.isWord "true" ||
        cursor.isWord "false" then
      advance
      return .other
    else if cursor.isWord "function" then
      g.function false true false
      return .other
    else if cursor.isWord "class" then
      let _ ← g.classRest false
      return .other
    else if cursor.isWord "async" then g.asyncOperand mayBeArrow
    else if cursor.isIdentifier || text == "let" || text == "await" then g.named mayBeArrow
    else unexpected
  | _ => unexpected

/-- An operand with what is read from it, without calls. -/
def calleeBody (g : Grammar) : Reader Expr := do
  let cursor ← cursor
  if cursor.isWord "new" then g.newRest
  else if cursor.isWord "super" then g.superRest false
  else if cursor.isWord "import" then g.importRest false
  else
    let value ← g.operand
    match value with
    | .arrow => return .arrow
    | _ =>
      let instantiated ← g.instantiation
      g.subscripts false true (if instantiated then .other else value)

/-- An operand with what is read from it and called on it. -/
def leftHandBody (g : Grammar) : Reader Expr := do
  let cursor ← cursor
  if cursor.isWord "super" then g.superRest true
  else if cursor.isWord "import" then g.importRest true
  else
    let callee ← g.callee
    match callee with
    | .arrow => return .arrow
    | _ =>
      g.callTypeArguments
      if ← atMark "(" then
        let arguments ← g.arguments
        g.subscripts true true (callOf callee false arguments)
      else return callee

end SfcWeave.Script.Grammar
