import SfcWeave.Text.Span

/-!
# The tree of a script

As much of a TypeScript module as the weaving of components looks at: its items with their
sources, imports and default exports, and expressions down to object literals and calls. All other
syntax is read, and only its extent is kept.
-/

namespace SfcWeave.Script

/-- The key of a member of an object literal, with escapes decoded. -/
inductive PropertyKey where
  | name (text : String)
  | string (value : String)
  /-- A number, a computed key or a private name. -/
  | other
deriving DecidableEq, Repr, Inhabited

namespace PropertyKey

/-- The text of a key that is a name or a string. -/
def text? : PropertyKey → Option String
  | name text => some text
  | string value => some value
  | other => none

end PropertyKey

mutual

/-- An expression. -/
inductive Expr where
  | identifier (name : String)
  | object (span : Span) (members : List Member)
  | array (elements : List Element)
  | call (callee : Expr) (arguments : List Argument)
  /-- A member or a call behind `?.`, and whatever is read from it. -/
  | chain
  /-- An expression with `!` behind it. -/
  | nonNull (inner : Expr)
  | arrow
  /-- An operator applied to operands; it cannot be assigned to. -/
  | operation
  | other

/-- A member of an object literal. -/
inductive Member where
  | shorthand (name : String)
  | keyValue (key : PropertyKey) (value : Expr)
  /-- `name = value`, which only a pattern may hold. -/
  | withDefault (name : String)
  | method (span : Span)
  | spread (value : Expr)

/-- An element of an array literal. -/
inductive Element where
  | hole
  | item (value : Expr)
  | spread (value : Expr)

/-- An argument of a call. -/
inductive Argument where
  | plain (value : Expr)
  | spread (value : Expr)

end

instance : Inhabited Expr := ⟨.other⟩

/-- The class of a default export. Its span starts at `class`, or at `abstract` before it, and
ends after its closing brace. -/
structure ClassDeclaration where
  name : Option String
  span : Span
  decorators : List Expr

/-- What an item is for the weaving of components. -/
inductive ItemRole where
  | importFrom (source : String)
  | defaultClass (declaration : ClassDeclaration)
  | defaultExpression (value : Expr)
  | plain

/-- An item of a module: a statement or a declaration. `nested` are the items of the namespaces
and module declarations inside it, in the order of the source. -/
inductive Item where
  | mk (span : Span) (role : ItemRole) (nested : List Item)

namespace Item

/-- Where the item stands in the script. -/
def span : Item → Span
  | mk span _ _ => span

/-- What the item is. -/
def role : Item → ItemRole
  | mk _ role _ => role

/-- The items of the namespaces inside the item. -/
def nested : Item → List Item
  | mk _ _ nested => nested

end Item

/-- A script as a list of items. -/
structure Module where
  items : List Item

/-- Why a script cannot be read. -/
inductive SyntaxFault where
  | unexpectedToken
  | unexpectedEnd
  | unexpectedCharacter
  | unterminatedTemplate
  | unterminatedPattern
  | invalidEscape
  | nameAfterNumber
  | emptyParentheses
  | missingInitializer
  | methodInPattern
  | decoratorsOnBothSides
  | optionalPattern
  | reservedName
  | tooDeep
deriving DecidableEq, Repr, Inhabited

namespace SyntaxFault

/-- The wording of a fault. -/
def message : SyntaxFault → String
  | unexpectedToken => "unexpected token"
  | unexpectedEnd => "unexpected end of script"
  | unexpectedCharacter => "unexpected character"
  | unterminatedTemplate => "unterminated template literal"
  | unterminatedPattern => "unterminated regular expression"
  | invalidEscape => "invalid escape sequence"
  | nameAfterNumber => "a name cannot follow a number directly"
  | emptyParentheses => "parentheses without an expression"
  | missingInitializer => "a destructuring declaration needs a value"
  | methodInPattern => "a pattern cannot hold a method"
  | decoratorsOnBothSides => "decorators cannot stand on both sides of export"
  | optionalPattern => "only a name can be optional here"
  | reservedName => "a reserved word cannot be a name here"
  | tooDeep => "nested too deeply"

end SyntaxFault

/-- Why and where a script cannot be read. -/
structure SyntaxError where
  fault : SyntaxFault
  span : Span
deriving DecidableEq, Repr, Inhabited

end SfcWeave.Script
