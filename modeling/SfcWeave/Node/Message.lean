import SfcWeave.Json.Printer
import SfcWeave.Json.Record
import SfcWeave.Node.Error

/-!
# Messages to and from the node process

Each message is one line of JSON. A request has a number, which the response to it repeats.
-/

namespace SfcWeave

/-- What is asked for. -/
inductive RequestKind where
  | compile
  | transpile
deriving DecidableEq, Repr

namespace RequestKind

/-- The name of a kind. -/
def name : RequestKind → String
  | compile => "compile"
  | transpile => "transpile"

/-- The kind with a name. -/
def ofName? (name : String) : Option RequestKind :=
  [compile, transpile].find? fun kind => kind.name = name

/-- Reads the name of a kind. -/
def read : Json.Reader RequestKind := do
  let name ← Json.Reader.string
  match ofName? name with
  | some kind => return kind
  | none => Json.Reader.fail (.wrongValue (.string name) "a kind of request")

end RequestKind

/-- A request: what is to be done with a source. -/
structure Request where
  id : Nat
  kind : RequestKind
  source : String
deriving DecidableEq, Repr

namespace Request

/-- The line of a request. -/
def print (request : Request) : String :=
  "\x7b\"id\":" ++ toString request.id ++ ",\"kind\":" ++ Json.printString request.kind.name ++
    ",\"source\":" ++ Json.printString request.source ++ "\x7d"

open Json.Reader in
/-- How a request is written. -/
def recordType : Json.RecordType Request where
  name := "Request"
  members := [
    { name := "id", required := true
      read := fun request => return { request with id := ← natural } },
    { name := "kind", required := true
      read := fun request => return { request with kind := ← RequestKind.read } },
    { name := "source", required := true
      read := fun request => return { request with source := ← string } }]
  empty := ⟨0, .compile, ""⟩

/-- Reads a request. -/
def ofLine (line : String) : Except Json.Error Request := Json.read recordType.read line

end Request

/-- The first message of the process. -/
structure Ready where
  ready : Bool
deriving DecidableEq, Repr

namespace Ready

/-- How the first message is written. -/
def recordType : Json.RecordType Ready where
  name := "Ready"
  members := [
    { name := "ready", required := true, read := fun _ => Ready.mk <$> Json.Reader.boolean }]
  empty := ⟨false⟩

/-- Reads the first message. -/
def ofLine (line : String) : Except NodeError Ready :=
  (Json.read recordType.read line).mapError fun error =>
    .unreadable ("invalid ready response: " ++ error.message)

end Ready

/-- An answer to a request. -/
structure Response where
  id : Option Nat := none
  render : Option String := none
  staticRenders : Option (List String) := none
  errors : List String := []
  code : Option String := none
  error : Option String := none
deriving DecidableEq, Repr

namespace Response

open Json.Reader in
/-- How an answer is written. -/
def recordType : Json.RecordType Response where
  name := "Response"
  members := [
    { name := "id", read := fun r => return { r with id := ← nullable natural } },
    { name := "render", read := fun r => return { r with render := ← nullable string } },
    { name := "staticRenderFns"
      read := fun r => return { r with staticRenders := ← nullable (list string) } },
    { name := "errors", elidable := true
      read := fun r => return { r with errors := ← list string } },
    { name := "code", read := fun r => return { r with code := ← nullable string } },
    { name := "error", read := fun r => return { r with error := ← nullable string } }]
  empty := {}

/-- Reads an answer. -/
def ofLine (line : String) : Except NodeError Response :=
  (Json.read recordType.read line).mapError fun error =>
    .unreadable ("invalid response: " ++ error.message ++ " (" ++ line ++ ")")

/-- What an answer says about a template. -/
def toTemplateOutput (response : Response) : Except NodeError TemplateOutput :=
  match response.error with
  | some error => .error (.remote error)
  | none =>
    if !response.errors.isEmpty then .ok (.problems response.errors)
    else
      match response.render with
      | none => .error (.protocol "compile response without render")
      | some render => .ok (.compiled ⟨render, response.staticRenders.getD []⟩)

/-- The code in an answer. -/
def toCode (response : Response) : Except NodeError String :=
  match response.error with
  | some error => .error (.remote error)
  | none =>
    match response.code with
    | none => .error (.protocol "transpile response without code")
    | some code => .ok code

end Response

end SfcWeave
