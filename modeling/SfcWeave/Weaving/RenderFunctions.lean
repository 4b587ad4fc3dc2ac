import SfcWeave.Text.Blank
import SfcWeave.Text.Search
import SfcWeave.Weaving.Error

/-!
# Render functions

The body of a render function is a list of statements. The transpiler takes only whole
expressions, so a body goes to it wrapped into a function that is called at once, and is unwrapped
from what comes back.
-/

namespace SfcWeave

/-- The text in front of a wrapped body. -/
def wrapperStart : List Char := "(function()\x7b".toList

/-- The text behind a wrapped body. -/
def wrapperEnd : List Char := "\x7d)()".toList

/-- The expression that runs a body. -/
def wrap (body : String) : String := String.ofList (wrapperStart ++ body.toList ++ wrapperEnd)

/-- The text without a semicolon at its end. -/
def dropSemicolon (text : List Char) : List Char := (Text.before? [';'] text).getD text

/-- The body in an expression that runs it; white space around the expression and a semicolon
after it do not count. -/
def unwrap? (code : String) : Option String :=
  ((Text.after? wrapperStart (dropSemicolon (Text.trim code.toList))).bind
    (Text.before? wrapperEnd)).map String.ofList

/-- The bodies of the render functions of a component, ready for its script. -/
structure RenderFunctions where
  render : String
  staticRenders : List String
deriving DecidableEq, Repr

namespace RenderFunctions

variable {σ : Type}

/-- Lowers a body to the older dialect through a toolchain. -/
def lowerBody (toolchain : Toolchain σ) (body : String) :
    ExceptT WeavingError (StateM σ) String :=
  ExceptT.mk do
    let result ← modifyGet (toolchain.transpile (wrap body))
    match result with
    | .error error => return .error (.toolchain error)
    | .ok code =>
      match unwrap? code with
      | some body => return .ok body
      | none => return .error (.lostWrapper code)

/-- Lowers all bodies of a compiled template, in order, up to the first failure. -/
def ofCompiled (toolchain : Toolchain σ) (compiled : CompiledTemplate) :
    ExceptT WeavingError (StateM σ) RenderFunctions := do
  let render ← lowerBody toolchain compiled.render
  let staticRenders ← compiled.staticRenders.mapM (lowerBody toolchain)
  return ⟨render, staticRenders⟩

/-- The functions as a list of expressions in brackets. -/
def bracketed (function : String → String) (bodies : List String) : String :=
  "[" ++ ", ".intercalate (bodies.map function) ++ "]"

/-- The statement that installs the functions on a class. -/
def injectCall (functions : RenderFunctions) (className : String) : String :=
  let function (body : String) : String :=
    "function (this: " ++ className ++ ") \x7b" ++ body ++ "\x7d"
  "inject(" ++ className ++ ", " ++ function functions.render ++ ", " ++
    bracketed function functions.staticRenders ++ ");"

/-- The members that give the functions to an options object. -/
def optionMembers (functions : RenderFunctions) : String :=
  let function (body : String) : String := "function () \x7b" ++ body ++ "\x7d"
  "\n  render: " ++ function functions.render ++ ",\n  staticRenderFns: " ++
    bracketed function functions.staticRenders ++ ","

end RenderFunctions

end SfcWeave
