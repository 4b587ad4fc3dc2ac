import SfcWeave.Text.Span

/-!
# Documents

A single-file component is a document of top-level blocks: at most one template, at most one
script, and any number of styles and custom blocks, whose relative order is kept.
-/

namespace SfcWeave

/-- The value of an attribute. One written without a value, or with an empty one, is `flag true`;
`flag false` is never read, it switches an attribute off when the document is written. -/
inductive AttributeValue where
  | text (value : String)
  | flag (on : Bool)
deriving DecidableEq, Repr, Inhabited

/-- An attribute in the header of a block, and where it stands in the source. -/
structure Attribute where
  name : String
  value : AttributeValue
  span : Span := ⟨0, 0⟩
deriving DecidableEq, Repr, Inhabited

/-- What a block is, by its tag. -/
inductive BlockKind where
  | template
  | script
  | style
  | custom (tag : String)
deriving DecidableEq, Repr, Inhabited

namespace BlockKind

/-- The kind of the blocks with a tag. -/
def ofTag (tag : String) : BlockKind :=
  if tag = "template" then .template
  else if tag = "script" then .script
  else if tag = "style" then .style
  else .custom tag

/-- The tag of the blocks of a kind. -/
def tag : BlockKind → String
  | template => "template"
  | script => "script"
  | style => "style"
  | custom tag => tag

@[simp] theorem tag_ofTag (t : String) : (ofTag t).tag = t := by
  unfold ofTag
  split
  · simp_all [tag]
  · split
    · simp_all [tag]
    · split <;> simp_all [tag]

end BlockKind

/-- A top-level block. The spans are those of the block and of its content in the source it was
read from; they do not follow later changes of the content. -/
structure Block where
  kind : BlockKind
  content : String
  attributes : List Attribute := []
  span : Span := ⟨0, 0⟩
  contentSpan : Span := ⟨0, 0⟩
deriving DecidableEq, Repr, Inhabited

namespace Block

/-- The value of the first attribute with a name. -/
def attribute? (block : Block) (name : String) : Option AttributeValue :=
  (block.attributes.find? (·.name = name)).map (·.value)

/-- The text of the first attribute with a name, if it has one. -/
def attributeText? (block : Block) (name : String) : Option String :=
  match block.attribute? name with
  | some (.text value) => some value
  | _ => none

/-- The `lang` attribute. -/
def lang? (block : Block) : Option String := block.attributeText? "lang"

end Block

/-- A single-file component: styles and custom blocks stand together in `blocks`, in order. -/
structure Document where
  template : Option Block := none
  script : Option Block := none
  blocks : List Block := []
deriving DecidableEq, Repr, Inhabited

namespace Document

/-- All blocks in the order in which they are written. -/
def toList (document : Document) : List Block :=
  document.template.toList ++ document.script.toList ++ document.blocks

/-- Is there a script whose `lang` attribute is `marker`? -/
def hasTypedScript (document : Document) (marker : String) : Bool :=
  (document.script.bind Block.lang?) == some marker

end Document

end SfcWeave
