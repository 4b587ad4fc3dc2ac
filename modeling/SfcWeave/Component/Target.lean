import SfcWeave.Component.ChildTags
import SfcWeave.Script.Snapshot

/-!
# The component of a script

The component is the first default export, in the order of the source, that is a class or a call
with an object literal as its first argument. Namespaces are searched too. Further ones are
ignored with a warning.
-/

namespace SfcWeave

open Script

/-- A class that is a component. -/
structure ClassTarget where
  name : String
  span : Span
  /-- The offset of the brace that closes the class. -/
  closingBrace : Nat
  childTags : List String
deriving DecidableEq, Repr

/-- The component of a script. -/
inductive Target where
  | cls (target : ClassTarget)
  /-- The object literal with the options of the component. -/
  | options (span : Span)
deriving DecidableEq, Repr

/-- A default export that is a component, or would be one if it had a name. -/
inductive Candidate where
  | component (target : Target)
  | unnamedClass (span : Span)
deriving DecidableEq, Repr

namespace Candidate

/-- Where the candidate starts. -/
def start : Candidate → Nat
  | component (.cls target) => target.span.start
  | component (.options span) => span.start
  | unnamedClass span => span.start

end Candidate

/-- The offset of the last occurrence of a character. -/
def lastOffset? (c : Char) (text : List Char) : Option Nat :=
  match text.reverse.dropWhile (· != c) with
  | [] => none
  | _ :: before => some (Text.byteLength before)

/-- A candidate, and the tags it registers that are reserved. -/
structure Found where
  candidate : Candidate
  shadowed : List String := []

variable {parse : Parser}

/-- A default-exported class as a candidate; one with a name needs its closing brace. -/
def ofClass? (script : Snapshot parse) (declaration : ClassDeclaration) : Option Found :=
  match declaration.name with
  | none => some { candidate := .unnamedClass declaration.span }
  | some name =>
    (lastOffset? '\x7d' (script.source declaration.span).toList).map fun close =>
      { candidate := .component <| .cls
          { name
            span := declaration.span
            closingBrace := declaration.span.start + close
            childTags := childTags declaration.decorators }
        shadowed := shadowedTags declaration.decorators }

/-- A default-exported expression as a candidate: a call whose first argument is an object. -/
def ofExpression? : Expr → Option Found
  | .call _ (.plain (.object span _) :: _) => some { candidate := .component (.options span) }
  | _ => none

mutual

/-- The candidates of an item: itself, then those of its namespaces. A class that is no candidate
is not searched. -/
def candidatesOfItem (script : Snapshot parse) : Item → List Found
  | .mk _ role nested =>
    match role with
    | .defaultClass declaration =>
      match ofClass? script declaration with
      | some found => found :: candidatesOfItems script nested
      | none => []
    | .defaultExpression value =>
      (ofExpression? value).toList ++ candidatesOfItems script nested
    | _ => candidatesOfItems script nested

/-- The candidates of items in order. -/
def candidatesOfItems (script : Snapshot parse) : List Item → List Found
  | [] => []
  | item :: items => candidatesOfItem script item ++ candidatesOfItems script items

end

/-- Something that is worth a warning, though it does not stop the weaving. -/
inductive Warning where
  | templateProblem (file problem : String)
  | shadowedTag (tag : String)
  | extraComponent (file : String) (offset : Nat)
deriving DecidableEq, Repr

/-- The result of looking for a component. -/
structure Located where
  first : Option Candidate
  warnings : List Warning

/-- Looks for the component of a script. -/
def locate (file : String) (script : Snapshot parse) : Located :=
  let found := candidatesOfItems script script.module.items
  let shadowed := found.flatMap fun f => f.shadowed.map Warning.shadowedTag
  let extra := (found.drop 1).map fun f => Warning.extraComponent file f.candidate.start
  { first := found.head?.map (·.candidate)
    warnings := shadowed ++ extra }

end SfcWeave
