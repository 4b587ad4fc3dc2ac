import SfcWeave.Document.Basic

/-!
# Writing a document

The template comes first, then the script, then styles and custom blocks in their order; blocks
are separated by one line feed.
-/

namespace SfcWeave

namespace Attribute

/-- The attribute after a blank. A value that holds a double quote and no single quote is written
in single quotes, so that it can be read again. -/
def print (a : Attribute) : String :=
  match a.value with
  | .flag true => " " ++ a.name
  | .flag false => ""
  | .text value =>
    if value.toList.contains '"' && !value.toList.contains '\'' then
      " " ++ a.name ++ "='" ++ value ++ "'"
    else
      " " ++ a.name ++ "=\"" ++ value ++ "\""

end Attribute

namespace Block

/-- The block with its header and its closing tag. -/
def print (block : Block) : String :=
  let tag := block.kind.tag
  "<" ++ tag ++ String.join (block.attributes.map Attribute.print) ++ ">" ++ block.content ++
    "</" ++ tag ++ ">"

end Block

namespace Document

/-- The text of a document. -/
def print (document : Document) : String :=
  "\n".intercalate (document.toList.map Block.print)

end Document

end SfcWeave
