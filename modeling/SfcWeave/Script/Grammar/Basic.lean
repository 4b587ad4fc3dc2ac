import SfcWeave.Script.Lexeme

/-!
# Reading by a grammar

A `Reader` reads a part of a script from the cursor on: it moves the cursor, and it fails with the
fault at the lexeme that cannot continue the script. Productions are readers; those that may occur
inside themselves are called through the record `Grammar`, so that each production is a plain
definition and the recursion is tied in one place.
-/

namespace SfcWeave.Script

/-! ### Tests of a lexeme -/

/-- The words that are never names. -/
def keywords : List String :=
  ["null", "true", "false", "break", "case", "catch", "continue", "debugger", "default", "do",
   "export", "else", "finally", "for", "function", "if", "return", "switch", "throw", "try", "var",
   "const", "while", "with", "new", "this", "super", "class", "extends", "import", "in",
   "instanceof", "typeof", "void", "delete", "enum"]

/-- The words that modules set aside beyond the keywords. -/
def moduleWords : List String :=
  ["let", "await", "yield", "implements", "package", "protected", "interface", "private", "public"]

/-- The operators between two operands. -/
def binaryMarks : List String :=
  ["==", "!=", "===", "!==", "<", "<=", ">", ">=", "<<", ">>", ">>>", "+", "-", "*", "/", "%", "|",
   "^", "&", "||", "&&", "**", "??"]

/-- The operators that assign, the plain equals sign aside. -/
def assignmentMarks : List String :=
  ["+=", "-=", "*=", "/=", "%=", "<<=", ">>=", ">>>=", "&=", "|=", "^=", "**=", "&&=", "||=", "??="]

namespace Cursor

/-- Is the lexeme this mark? -/
def isMark (cursor : Cursor) (text : String) : Bool :=
  match cursor.lexeme with
  | .mark other => other == text
  | _ => false

/-- Is the lexeme one of these marks? -/
def isOneOf (cursor : Cursor) (texts : List String) : Bool :=
  match cursor.lexeme with
  | .mark other => texts.contains other
  | _ => false

/-- Is the lexeme this word, written without escapes? -/
def isWord (cursor : Cursor) (text : String) : Bool :=
  match cursor.lexeme with
  | .word other escaped => other == text && !escaped
  | _ => false

/-- The word under the cursor, whatever it is. -/
def word? (cursor : Cursor) : Option String :=
  match cursor.lexeme with
  | .word text _ => some text
  | _ => none

/-- Is the lexeme a word, be it a keyword? -/
def isName (cursor : Cursor) : Bool := cursor.word?.isSome

/-- Is the lexeme a word that may name a variable? -/
def isIdentifier (cursor : Cursor) : Bool :=
  match cursor.lexeme with
  | .word text _ => !keywords.contains text && !moduleWords.contains text
  | _ => false

/-- Is the lexeme a string literal? -/
def isString (cursor : Cursor) : Bool :=
  match cursor.lexeme with
  | .string _ => true
  | _ => false

/-- Is the lexeme a number? -/
def isNumber (cursor : Cursor) : Bool :=
  match cursor.lexeme with
  | .number | .bigint => true
  | _ => false

/-- Is this the end of the script? -/
def isEnd (cursor : Cursor) : Bool :=
  match cursor.lexeme with
  | .endOfText => true
  | _ => false

/-- May a statement end before this lexeme, or with it? -/
def endsStatement (cursor : Cursor) : Bool :=
  cursor.isMark ";" || cursor.isMark "\x7d" || cursor.isEnd || cursor.newline

/-- Is this an operator between two operands? -/
def isBinary (cursor : Cursor) : Bool := cursor.joinGreater.isOneOf binaryMarks

end Cursor

/-! ### Readers -/

/-- What the surroundings of a production decide for it. -/
structure Surroundings where
  /-- The size of the script in bytes, which bounds every repetition. -/
  size : Nat
  /-- Is `in` an operator here? -/
  allowIn : Bool := true
  inAsync : Bool := false
  inGenerator : Bool := false
  inDeclare : Bool := false
  /-- May imports and exports stand here? -/
  moduleLevel : Bool := true
  /-- Inside a branch of a conditional expression. -/
  inConditional : Bool := false
  /-- Inside the first branch, which a colon ends. -/
  colonEnds : Bool := false
  /-- Is `extends` after a type the mark of a conditional type? -/
  conditionalTypes : Bool := true

/-- Where reading has got to. -/
structure Progress where
  cursor : Cursor
  /-- The end of the lexeme before the cursor. -/
  last : Nat := 0
  /-- Where an arrow function may start. -/
  arrowStart : Option Nat := none
  /-- The items of the namespaces read in the current item, the latest first. -/
  nested : List Item := []

/-- Reads a part of a script. -/
abbrev Reader := ReaderT Surroundings (EStateM SyntaxError Progress)

namespace Reader

/-- The lexeme under the cursor, with its place. -/
def cursor : Reader Cursor := return (← get).cursor

/-- Puts the cursor on another place. -/
def setCursor (cursor : Cursor) : Reader Unit := modify ({ · with cursor })

/-- Moves the cursor to the next lexeme. -/
def advance : Reader Unit :=
  modify fun p => { p with cursor := p.cursor.next, last := p.cursor.span.stop }

/-- The lexeme after the one under the cursor. -/
def peek : Reader Cursor := return (← cursor).next

/-- The offset of the lexeme under the cursor. -/
def position : Reader Nat := return (← cursor).span.start

/-- The span from an offset to the end of the lexeme before the cursor. -/
def spanFrom (start : Nat) : Reader Span := return ⟨start, (← get).last⟩

/-- Fails with a fault at a span. -/
def fail {α : Type} (fault : SyntaxFault) (span : Span) : Reader α := throw ⟨fault, span⟩

/-- Fails because the lexeme under the cursor cannot continue the script. -/
def unexpected {α : Type} : Reader α := do
  let cursor ← cursor
  match cursor.lexeme with
  | .invalid error => throw error
  | .endOfText => fail .unexpectedEnd cursor.span
  | _ => fail .unexpectedToken cursor.span

/-- Is this mark under the cursor? -/
def atMark (text : String) : Reader Bool := return (← cursor).isMark text

/-- Is this word under the cursor? -/
def atWord (text : String) : Reader Bool := return (← cursor).isWord text

/-- Takes a mark if it is there. -/
def accept (text : String) : Reader Bool := do
  if ← atMark text then advance; return true
  else return false

/-- Takes a word if it is there. -/
def acceptWord (text : String) : Reader Bool := do
  if ← atWord text then advance; return true
  else return false

/-- Takes a mark that has to be there. -/
def expect (text : String) : Reader Unit := do
  unless ← accept text do unexpected

/-- Takes a word that has to be there. -/
def expectWord (text : String) : Reader Unit := do
  unless ← acceptWord text do unexpected

/-- Takes the end of a statement if it is there: a semicolon, or none before a closing brace, at
the end of the script and at the end of a line. -/
def acceptEnd : Reader Bool := do
  let cursor ← cursor
  if cursor.isMark ";" then advance
  return cursor.endsStatement

/-- Takes the end of a statement, which has to be there. -/
def expectEnd : Reader Unit := do
  unless ← acceptEnd do unexpected

/-- A reader that is only tried under a condition. -/
def onlyIf (condition : Bool) (reader : Reader Bool) : Reader Bool :=
  if condition then reader else return false

/-- A reader that is only tried on the line of the lexeme before the cursor. -/
def onSameLine (reader : Reader Bool) : Reader Bool := do onlyIf (!(← cursor).newline) reader

/-- The name under the cursor, be it a keyword. -/
def name : Reader String := do
  match (← cursor).word? with
  | some text => advance; return text
  | none => unexpected

/-- Reads if it can, and stays in place otherwise. -/
def attempt {α : Type} (reader : Reader (Option α)) : Reader (Option α) := do
  let saved ← get
  try
    let result ← reader
    if result.isNone then set saved
    return result
  catch _ =>
    set saved
    return none

/-- Looks ahead with a reader and stays in place; a failure counts as no. -/
def lookAhead (reader : Reader Bool) : Reader Bool := do
  let saved ← get
  let result ← try reader catch _ => pure false
  set saved
  return result

/-- Repeats a step that ends with a result; `count` bounds the number of steps. -/
def iterate {σ α : Type} (step : σ → Reader (σ ⊕ α)) : Nat → σ → Reader α
  | 0, _ => do fail .tooDeep (← cursor).span
  | count + 1, s => do
    match ← step s with
    | .inl s => iterate step count s
    | .inr result => return result

/-- Repeats a step that ends with a result. Each step takes something of the script, so that no
more steps are needed than the script has bytes. -/
def repeatUntil {σ α : Type} (start : σ) (step : σ → Reader (σ ⊕ α)) : Reader α := do
  iterate step ((← read).size + 2) start

/-- Reads as long as a test holds. -/
def whileHolds {α : Type} (test : Reader Bool) (body : Reader α) : Reader (List α) :=
  repeatUntil [] fun read => do
    if ← test then return .inl ((← body) :: read)
    else return .inr read.reverse

/-- Is the cursor neither on this mark nor at the end of the script? -/
def before (text : String) : Reader Bool := do
  let cursor ← cursor
  return !cursor.isEnd && !cursor.isMark text

/-- Reads elements with commas between them up to a closing mark, which is left in place; a comma
may follow the last element. -/
def separated {α : Type} (close : String) (element : Reader α) : Reader (List α) :=
  whileHolds (before close) do
    let value ← element
    unless ← atMark close do expect ","
    return value

/-- Reads elements with commas between them until the cursor meets a closing lexeme. -/
def listed (closes : Cursor → Bool) (element : Reader Unit) : Reader Unit := do
  let _ ← whileHolds (return !closes (← cursor)) do
    element
    unless ← accept "," do
      unless closes (← cursor) do unexpected

end Reader

/-- What a binding introduces: one name, or the names in a pattern. -/
inductive Binding where
  | name
  | pattern
deriving DecidableEq

/-- The productions that may occur inside themselves. -/
structure Grammar where
  /-- An expression without commas. -/
  assignment : Reader Expr
  /-- An operand with its unary operators. -/
  unary : Reader Expr
  /-- An operand with what is called on it and read from it. -/
  leftHand : Reader Expr
  /-- The same without calls. -/
  callee : Reader Expr
  /-- What is read from an operand and, if `calls`, called on it; indices only if `indices`. -/
  subscripts : (calls indices : Bool) → Expr → Reader Expr
  type : Reader Unit
  /-- A type that is not conditional. -/
  plainType : Reader Unit
  /-- A type with its operators. -/
  typeOperator : Reader Unit
  binding : Reader Binding
  /-- A statement; declarations of variables only if `declarations`. -/
  statement : (declarations : Bool) → Reader Span
  /-- The items of a namespace up to its closing brace. -/
  items : Reader (List Item)

end SfcWeave.Script
