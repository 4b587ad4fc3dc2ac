import SfcWeave.Component.ReservedTag
import SfcWeave.Component.Tag
import SfcWeave.Script.Tree

/-!
# Child components of a class

`@Component(…)` in front of a class takes an options object, whose `components` member registers
the components that the template may use. Their tags are declared on the class, one overload of
`_c` each, so that a type checker accepts them beside the reserved tags.
-/

namespace SfcWeave

open Script

/-- The members of an object literal. -/
def objectMembers? : Expr → Option (List Member)
  | .object _ members => some members
  | _ => none

/-- The value of the first member `key: value` with a key. -/
def memberValue? (key : String) : List Member → Option Expr
  | [] => none
  | .keyValue candidate value :: rest =>
    if candidate.text? = some key then some value else memberValue? key rest
  | _ :: rest => memberValue? key rest

/-- The key of a member that registers a component: a name by itself, or a key with a value. -/
def registeredKey? : Member → Option String
  | .shorthand name => some name
  | .keyValue key _ => key.text?
  | _ => none

/-- The members of the options object of a decorator: it is called with this object alone. -/
def decoratorOptions? : Expr → Option (List Member)
  | .call _ [.plain options] => objectMembers? options
  | _ => none

/-- The names under which a decorator registers components. -/
def registeredNames (decorator : Expr) : List String :=
  match ((decoratorOptions? decorator).bind (memberValue? "components")).bind objectMembers? with
  | some members => members.filterMap registeredKey?
  | none => []

/-- The tags of all registrations in the decorators of a class, in order. -/
def registeredTags (decorators : List Expr) : List String :=
  (decorators.flatMap registeredNames).map hyphenate

/-- The tags of the child components of a class, each once. -/
def childTags (decorators : List Expr) : List String := (registeredTags decorators).eraseDups

/-- The registrations under the tag of an element of the platform. -/
def shadowedTags (decorators : List Expr) : List String :=
  (registeredTags decorators).filter isReservedTag

/-- A text for a string literal in double quotes. -/
def escapeQuoted (text : String) : String :=
  String.ofList (text.toList.flatMap fun c =>
    if c = '\\' then ['\\', '\\'] else if c = '"' then ['\\', '"'] else [c])

/-- The overload of `_c` for a tag. -/
def tagOverload (tag : String) : String :=
  "    (tag: \"" ++ escapeQuoted tag ++ "\", data?: any, children?: any): any\n"

/-- The member of a class that declares `_c` for the tags of its child components and for the
reserved tags. -/
def childDeclaration (tags : List String) : String :=
  "\n  declare _c: \x7b\n" ++ String.join (tags.map tagOverload) ++
    "    (tag: ReservedTag, data?: any, children?: any): any\n  \x7d\n"

end SfcWeave
