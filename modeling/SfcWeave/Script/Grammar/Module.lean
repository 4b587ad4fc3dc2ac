import SfcWeave.Script.Grammar.Statement

/-!
# Imports, exports and the items of a module
-/

namespace SfcWeave.Script.Grammar

open Reader

/-- The string that names a module. -/
def moduleName : Reader String := do
  match (← cursor).lexeme with
  | .string value => advance; return value
  | _ => unexpected

/-- The attributes of an import, and the end of the statement. -/
def importEnd (g : Grammar) : Reader Unit := do
  let cursor ← cursor
  if !cursor.newline && (cursor.isWord "with" || cursor.isWord "assert") then
    advance
    let _ ← g.objectLiteral
  expectEnd

/-- The module that is imported from, after the names. -/
def fromClause (g : Grammar) : Reader String := do
  expectWord "from"
  let source ← moduleName
  g.importEnd
  return source

/-- The name of an export, which may be a string. -/
def exportName : Reader Unit := do
  let cursor ← cursor
  if cursor.isString || cursor.isName then advance else unexpected

/-- The binding of an import whose name was `type`, a word that may also have been meant as the mark
of a type. -/
def typeImportName : Reader Unit := do
  let first ← name
  if first == "as" then
    if (← cursor).isName then
      let second ← identifier true
      if second == "as" && (← cursor).isName then let _ ← identifier true
  else if ← acceptWord "as" then let _ ← identifier true

/-- A name in the braces of an import. -/
def importedName : Reader Unit := do
  let cursor ← cursor
  if cursor.isString then
    advance
    expectWord "as"
    let _ ← identifier true
  else
    let text ← name
    if text == "type" && (← Reader.cursor).isName then typeImportName
    else if ← acceptWord "as" then let _ ← identifier true
    else if keywords.contains text || moduleWords.contains text then
      fail .reservedName cursor.span

/-- The names of an import between the default binding and `from`. -/
def importedNames : Reader Unit := do
  if ← accept "*" then
    expectWord "as"
    let _ ← identifier true
  else if ← accept "\x7b" then
    let _ ← separated "\x7d" importedName
    expect "\x7d"

/-- What an `import x = …` names, and the end of the statement. -/
def importAlias : Reader Unit := do
  expect "="
  if (← atWord "require") && (← peek).isMark "(" then
    advance
    advance
    let _ ← moduleName
    expect ")"
  else qualifiedName
  expectEnd

/-- The default binding of an import, past the marks of its kind. The result tells whether this
is an `import x = …`, which has been read to its end. -/
def defaultImport : Reader Bool := do
  let first ← identifier true
  let cursor ← cursor
  let isType := first == "type"
  if (isType && cursor.isOneOf ["*", "\x7b"]) || (first == "defer" && cursor.isMark "*") then
    return false
  let namesAnother := cursor.isIdentifier && (!cursor.isWord "from" || cursor.next.isWord "from")
  if ((isType || first == "source") && namesAnother) ||
      (isType && cursor.isWord "from" && cursor.next.isMark "=") then
    let _ ← identifier true
  if ← atMark "=" then
    importAlias
    return true
  unless ← atWord "from" do expect ","
  return false

/-- An import, from its keyword on. -/
def importItem (g : Grammar) : Reader ItemRole := do
  expectWord "import"
  if (← cursor).isString then
    let source ← moduleName
    g.importEnd
    return .importFrom source
  if (← cursor).isIdentifier then
    if ← defaultImport then return .plain
  importedNames
  return .importFrom (← g.fromClause)

/-- A name in the braces of an export. -/
def exportedName : Reader Unit := do
  let isType ← atWord "type"
  exportName
  if isType && (← cursor).isName then
    let second ← atWord "as"
    advance
    if second then
      -- `type as`, `type as x`, `type as as` and `type as as x`
      let third ← atWord "as"
      if (← cursor).isName || (← cursor).isString then advance
      if third && ((← cursor).isName || (← cursor).isString) then advance
      return
  if ← acceptWord "as" then exportName

/-- The decorators of an exported class, which stand before `export` or after it. -/
def exportedDecorators (g : Grammar) (before : List Expr) : Reader (List Expr) := do
  let start ← position
  let after ← g.decorators
  if !after.isEmpty && !before.isEmpty then fail .decoratorsOnBothSides (← spanFrom start)
  return if after.isEmpty then before else after

/-- What follows `export default`, with the decorators in front of `export`. -/
def defaultExport (g : Grammar) (before : List Expr) : Reader ItemRole := do
  let decorators ← g.exportedDecorators before
  let cursor ← cursor
  let start := cursor.span.start
  let isAbstract :=
    cursor.isWord "abstract" && cursor.next.isWord "class" && !cursor.next.newline
  if isAbstract || cursor.isWord "class" then
    if isAbstract then advance
    let name ← g.classRest false
    return .defaultClass ⟨name, ← spanFrom start, decorators⟩
  if cursor.isWord "abstract" && cursor.next.isWord "interface" then advance
  if ← acceptWord "interface" then
    let _ ← g.interfaceRest start
    return .plain
  let cursor ← Reader.cursor
  if cursor.isWord "async" && cursor.next.isWord "function" && !cursor.next.newline then
    advance
    g.function true false false
    return .plain
  if cursor.isWord "function" then
    g.function false false false
    return .plain
  let value ← withIn g.assignment
  expectEnd
  return .defaultExpression value

/-- An export of names, of a whole module or of a declaration. -/
def namedExport (g : Grammar) (decorators : List Expr) : Reader Unit := do
  let isType ← acceptWord "type"
  let _ ← g.exportedDecorators decorators
  let cursor ← cursor
  let start := cursor.span.start
  if !isType && cursor.isWord "class" then
    let _ ← g.classDeclaration start
  else if !isType && cursor.isWord "async" && cursor.next.isWord "function" &&
      !cursor.next.newline then
    advance
    g.function true false true
  else if !isType && cursor.isWord "function" then g.function false false true
  else if !isType && cursor.isWord "const" && cursor.next.isWord "enum" then
    advance
    advance
    let _ ← g.enumRest start
  else if !isType && (cursor.isWord "var" || cursor.isWord "const" ||
      (cursor.isWord "let" && followsLet cursor.next)) then
    let _ ← g.variableList false
  else if ← accept "*" then
    if ← acceptWord "as" then exportName
    let _ ← g.fromClause
  else
    expect "\x7b"
    let _ ← separated "\x7d" exportedName
    expect "\x7d"
    if ← atWord "from" then
      let _ ← g.fromClause
    else let _ ← acceptEnd

/-- An export, from its keyword on, with the decorators in front of it. -/
def exportItem (g : Grammar) (decorators : List Expr) : Reader ItemRole := do
  expectWord "export"
  if (← cursor).isEnd then unexpected
  let start ← position
  if ← acceptWord "declare" then
    if (← g.ambient? start).isSome then return .plain
  if let some word := (← cursor).word? then
    let declaration ← attempt (g.wordDeclaration? start word true)
    if declaration.isSome then return .plain
  if ← acceptWord "import" then
    if (← atWord "type") && (← peek).isIdentifier then advance
    let _ ← name
    importAlias
    return .plain
  if ← accept "=" then
    g.skipExpression
    expectEnd
    return .plain
  if ← acceptWord "as" then
    expectWord "namespace"
    let _ ← identifier false
    expectEnd
    return .plain
  if ← acceptWord "default" then return ← g.defaultExport decorators
  g.namedExport decorators
  return .plain

/-- An item without its nested items: its extent and what it is. An exported declaration starts at
`export`, after its decorators. -/
def itemRole (g : Grammar) : Reader (Span × ItemRole) := do
  let start ← position
  let decorators ← g.decorators
  let cursor ← cursor
  let isCall := cursor.isWord "import" && cursor.next.isOneOf ["(", "."]
  if isCall then
    g.skipExpression
    let _ ← acceptEnd
    return (← spanFrom cursor.span.start, .plain)
  else if cursor.isWord "import" then
    let role ← g.importItem
    return (← spanFrom cursor.span.start, role)
  else if cursor.isWord "export" then
    let role ← g.exportItem decorators
    return (← spanFrom cursor.span.start, role)
  else
    let span ← withReader (fun s => { s with colonEnds := false, moduleLevel := false })
      (g.statementRest start true)
    return (span, .plain)

/-- An item of a module or a namespace. -/
def item (g : Grammar) : Reader Item := do
  let outer := (← get).nested
  modify ({ · with nested := [] })
  let (span, role) ← g.itemRole
  let inner := (← get).nested.reverse
  modify ({ · with nested := outer })
  return .mk span role inner

/-- The items of a namespace up to its closing brace or the end of the script. -/
def itemsBody (g : Grammar) : Reader (List Item) := whileHolds (before "\x7d") g.item

/-- The items of a script. -/
def moduleItems (g : Grammar) : Reader (List Item) :=
  whileHolds (return !(← cursor).isEnd) g.item

end SfcWeave.Script.Grammar
