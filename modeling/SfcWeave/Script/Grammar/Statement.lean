import SfcWeave.Script.Grammar.Declaration

/-!
# Statements

Every reader returns the extent of the statement from the given start.
-/

namespace SfcWeave.Script.Grammar

open Reader

/-- An expression in parentheses. -/
def condition (g : Grammar) : Reader Unit := do
  expect "("
  g.skipExpression
  expect ")"

/-- `break` and `continue`, with the label of what they leave. -/
def jump (start : Nat) : Reader Span := do
  advance
  unless ← acceptEnd do
    let _ ← name
    expectEnd
  spanFrom start

/-- `if`, with its branches. The parenthesis that closes the condition may be missing. -/
def ifStatement (g : Grammar) (start : Nat) : Reader Span := do
  advance
  expect "("
  g.skipExpression
  let _ ← accept ")"
  let _ ← g.statement false
  if ← acceptWord "else" then let _ ← g.statement false
  spanFrom start

/-- `do` with its condition. -/
def doStatement (g : Grammar) (start : Nat) : Reader Span := do
  advance
  let _ ← g.statement false
  expectWord "while"
  g.condition
  let _ ← acceptEnd
  spanFrom start

/-- `while` and `with`. -/
def whileStatement (g : Grammar) (start : Nat) : Reader Span := do
  advance
  g.condition
  let _ ← g.statement false
  spanFrom start

/-- What a loop runs over, after `of` or `in`. -/
def loopOver (g : Grammar) : Reader Unit := do
  if ← acceptWord "of" then
    let _ ← withIn g.assignment
  else
    expectWord "in"
    g.skipExpression

/-- The second and third part of the head of a loop, after the semicolon that ends the first. -/
def loopParts (g : Grammar) : Reader Unit := do
  unless ← accept ";" do
    g.skipExpression
    expect ";"
  unless ← atMark ")" do g.skipExpression

/-- Does the cursor stand on `of` or `in`? -/
def atLoopOver : Reader Bool := return (← atWord "of") || (← atWord "in")

/-- The head of a loop in its parentheses. -/
def loopHead (g : Grammar) : Reader Unit := do
  let cursor ← cursor
  if cursor.isWord "const" || cursor.isWord "var" ||
      (cursor.isWord "let" && followsLet cursor.next) then
    let _ ← g.variableList true
    if ← atLoopOver then g.loopOver
    else
      expect ";"
      g.loopParts
  else if ← accept ";" then g.loopParts
  else
    let target ← withReader (fun s => { s with allowIn := false }) g.expression
    if ← atLoopOver then
      asPattern target
      g.loopOver
    else
      expect ";"
      g.loopParts

/-- `for`, in all its forms. -/
def forStatement (g : Grammar) (start : Nat) : Reader Span := do
  advance
  let _ ← acceptWord "await"
  expect "("
  g.loopHead
  expect ")"
  let _ ← g.statement false
  spanFrom start

/-- `return` and what it returns. -/
def returnStatement (g : Grammar) (start : Nat) : Reader Span := do
  advance
  unless ← acceptEnd do
    g.skipExpression
    expectEnd
  spanFrom start

/-- `throw` and what it throws, which starts on the same line. -/
def throwStatement (g : Grammar) (start : Nat) : Reader Span := do
  advance
  if (← cursor).newline then unexpected
  g.skipExpression
  expectEnd
  spanFrom start

/-- `switch` with its cases. -/
def switchStatement (g : Grammar) (start : Nat) : Reader Span := do
  advance
  g.condition
  expect "\x7b"
  let _ ← whileHolds (return (← atWord "case") || (← atWord "default")) do
    let isCase ← atWord "case"
    advance
    if isCase then g.skipExpression
    expect ":"
    let _ ← whileHolds (do
        let cursor ← cursor
        return !cursor.isEnd && !cursor.isMark "\x7d" && !cursor.isWord "case" &&
          !cursor.isWord "default")
      (g.statement true)
  expect "\x7d"
  spanFrom start

/-- What is done with an exception, if that is given. -/
def catchClause (g : Grammar) : Reader Unit := do
  if ← acceptWord "catch" then
    if ← accept "(" then
      let _ ← g.binding
      g.annotation
      expect ")"
    g.block

/-- What is done in any case, if that is given. -/
def finallyClause (g : Grammar) : Reader Unit := do
  if ← acceptWord "finally" then g.block

/-- `try` with its clauses. -/
def tryStatement (g : Grammar) (start : Nat) : Reader Span := do
  advance
  g.block
  g.catchClause
  g.finallyClause
  spanFrom start

/-- Clauses without `try`: they are passed over, and count as an empty statement in the place of
their first word. -/
def strayClauses (g : Grammar) : Reader Span := do
  let span := (← cursor).span
  try g.catchClause catch _ => pure ()
  try g.finallyClause catch _ => pure ()
  return span

/-- A statement that starts like an expression: an expression, a label with its statement, or a
declaration whose first word is no keyword. -/
def expressionStatement (g : Grammar) (start : Nat) : Reader Span := do
  let value ← withIn g.expression
  if let .identifier word := value then
    if ← accept ":" then
      if ← atWord "function" then g.function false false true
      else let _ ← g.statement false
      return ← spanFrom start
    if let some span ← g.contextual? start word then return span
    if ← onlyIf (["public", "static", "abstract"].contains word) (acceptWord "interface") then
      return ← g.interfaceRest start
  if ← acceptEnd then spanFrom start
  else if (← cursor).isBinary then
    let _ ← g.binaryRest value
    spanFrom start
  else unexpected

/-- Does the word under the cursor stand in front of a name on the same line? -/
def precedesName : Reader Bool := do
  let next ← peek
  return next.isName && !next.newline

/-- The first word of a statement decides what it is, as far as it is a keyword. -/
def keywordStatement (g : Grammar) (start : Nat) (declarations : Bool) (word : String) :
    Reader Span := do
  match word with
  | "break" | "continue" => jump start
  | "debugger" =>
    advance
    expectEnd
    spanFrom start
  | "do" => g.doStatement start
  | "for" => g.forStatement start
  | "function" =>
    g.function false false true
    spanFrom start
  | "class" => g.classDeclaration start
  | "if" => g.ifStatement start
  | "return" => g.returnStatement start
  | "switch" => g.switchStatement start
  | "throw" => g.throwStatement start
  | "catch" | "finally" => g.strayClauses
  | "try" => g.tryStatement start
  | "with" | "while" => g.whileStatement start
  | "var" => g.variableList false
  | "const" =>
    if (← peek).isWord "enum" then
      advance
      advance
      g.enumRest start
    else if declarations then g.variableList false
    else g.expressionStatement start
  | "let" =>
    if declarations && followsLet (← peek) then g.variableList false
    else g.expressionStatement start
  | "interface" | "type" | "enum" =>
    if ← precedesName then
      advance
      if word == "interface" then g.interfaceRest start
      else if word == "type" then g.aliasRest start
      else g.enumRest start
    else g.expressionStatement start
  | "async" =>
    let next ← peek
    if next.isWord "function" && !next.newline then
      advance
      g.function true false true
      spanFrom start
    else g.expressionStatement start
  | _ => g.expressionStatement start

/-- A statement after its decorators. -/
def statementRest (g : Grammar) (start : Nat) (declarations : Bool) : Reader Span := do
  let cursor ← cursor
  match cursor.lexeme with
  | .word word false => g.keywordStatement start declarations word
  | .mark "\x7b" =>
    g.block
    spanFrom start
  | .mark ";" =>
    advance
    spanFrom start
  | _ => g.expressionStatement start

/-- A statement where imports and exports may not stand, calls of `import` aside. -/
def statementBody (g : Grammar) (declarations : Bool) : Reader Span := do
  let start ← position
  let _ ← g.decorators
  let cursor ← cursor
  if cursor.isWord "import" && cursor.next.isOneOf ["(", "."] then
    g.skipExpression
    let _ ← acceptEnd
    spanFrom start
  else if cursor.isWord "import" || cursor.isWord "export" then unexpected
  else
    withReader (fun s => { s with colonEnds := false, moduleLevel := false })
      (g.statementRest start declarations)

end SfcWeave.Script.Grammar
