import SfcWeave.Script.Grammar.Module

/-!
# Reading a script

`Script.parse` reads a TypeScript module. It accepts programs that break rules beyond the grammar,
such as a name that is declared twice.
-/

namespace SfcWeave.Script

namespace Grammar

/-- A grammar whose productions fail. -/
def refusing : Grammar :=
  let refuse {α : Type} : Reader α := do Reader.fail .tooDeep (← Reader.cursor).span
  { assignment := refuse
    unary := refuse
    leftHand := refuse
    callee := refuse
    subscripts := fun _ _ _ => refuse
    type := refuse
    plainType := refuse
    typeOperator := refuse
    binding := refuse
    statement := fun _ => refuse
    items := refuse }

/-- The grammar whose productions may occur inside themselves down to a depth. -/
def ofDepth : Nat → Grammar
  | 0 => refusing
  | depth + 1 =>
    { assignment := fun s => assignmentBody (ofDepth depth) s
      unary := fun s => unaryBody (ofDepth depth) s
      leftHand := fun s => leftHandBody (ofDepth depth) s
      callee := fun s => calleeBody (ofDepth depth) s
      subscripts := fun calls indices value s =>
        subscriptsBody (ofDepth depth) calls indices value s
      type := fun s => typeBody (ofDepth depth) s
      plainType := fun s => plainTypeBody (ofDepth depth) s
      typeOperator := fun s => typeOperatorBody (ofDepth depth) s
      binding := fun s => bindingBody (ofDepth depth) s
      statement := fun declarations s => statementBody (ofDepth depth) declarations s
      items := fun s => itemsBody (ofDepth depth) s }

end Grammar

/-- The text that positions count in: a byte order mark at the start of a script is left out. -/
def withoutMark (text : List Char) : List Char :=
  match text with
  | '\ufeff' :: rest => rest
  | _ => text

/-- The cursor on the first lexeme of a script; a first line that names an interpreter is no part
of the program. -/
def firstCursor (text : List Char) : Cursor :=
  match text with
  | '#' :: '!' :: rest =>
    let line := rest.takeWhile fun c => !isLineBreak c
    Cursor.start (2 + Text.byteLength line) true (rest.drop line.length)
  | _ => Cursor.start 0 true text

/-- How many productions can be open in each other for each character of a script: no production
opens more than a few before it takes a character. -/
def depthPerCharacter : Nat := 16

/-- Reads a script. -/
def parse (script : String) : Except SyntaxError Module :=
  let text := withoutMark script.toList
  let depth := depthPerCharacter * (text.length + 1)
  let reader := Grammar.moduleItems (Grammar.ofDepth depth)
  match reader { size := Text.byteLength text } { cursor := firstCursor text } with
  | .ok items _ => .ok ⟨items⟩
  | .error error _ => .error error

end SfcWeave.Script
