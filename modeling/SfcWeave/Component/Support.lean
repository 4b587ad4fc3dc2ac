import SfcWeave.Component.ReservedTag

/-!
# Support modules

Woven components import two TypeScript modules, which this module writes: the runtime module with
`inject`, which installs compiled render functions on a component, and the module with the type
`ReservedTag`, the union of the reserved tags.
-/

namespace SfcWeave.Support

/-- The functions that compiled render functions call on a component. -/
def renderHelpers : List String :=
  ["_o", "_n", "_s", "_l", "_t", "_q", "_i", "_m", "_f", "_k", "_b", "_v", "_e", "_u"]

/-- The text of the runtime module. -/
def runtimeModule : String :=
  "import Vue from 'vue'\n\n" ++
  "export function inject (\n" ++
  "  Ctor: any /* typeof Vue */,\n" ++
  "  render: Function,\n" ++
  "  staticRenderFns: Function[]\n" ++
  "): void \x7b\n" ++
  "  Ctor.options.render = render\n" ++
  "  Ctor.options.staticRenderFns = staticRenderFns\n" ++
  "\x7d\n\n" ++
  "declare module 'vue/types/vue' \x7b\n" ++
  "  interface Vue \x7b\n" ++
  String.join (renderHelpers.map fun helper => "    " ++ helper ++ ": Function\n") ++
  "    _self: this\n  \x7d\n\x7d\n"

/-- How many tags stand on a line of a union. -/
def tagsPerLine : Nat := 8

/-- A list in groups of `size`, the last of which may be shorter. -/
def groups (size : Nat) (xs : List String) : List (List String) :=
  if _h : xs = [] ∨ size = 0 then []
  else xs.take size :: groups size (xs.drop size)
termination_by xs.length
decreasing_by
  have : xs.length ≠ 0 := by
    simp only [not_or] at _h
    simpa using _h.1
  simp only [List.length_drop]
  omega

/-- The lines of a union after its first: each starts with a bar. -/
def union (tags : List String) : String :=
  let line (group : List String) : String :=
    " | ".intercalate (group.map fun tag => "'" ++ tag ++ "'") ++ "\n"
  match (groups tagsPerLine tags).map line with
  | [] => ""
  | first :: others => "  " ++ first ++ String.join (others.map ("  | " ++ ·))

/-- The declaration of a union type of tags. -/
def unionType (name : String) (tags : List String) : String :=
  "export type " ++ name ++ " =\n" ++ union tags

/-- The text of the module with the type of reserved tags. -/
def builtInModule : String :=
  unionType "HTMLTag" htmlTags ++ "\n" ++ unionType "SVGTag" svgTags ++
    "\nexport type ReservedTag = HTMLTag | SVGTag\n"

end SfcWeave.Support
