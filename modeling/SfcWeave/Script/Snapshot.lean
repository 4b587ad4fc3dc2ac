import SfcWeave.Script.Tree

/-!
# Snapshots of a script

A snapshot pairs a text with the module that has been read from exactly this text. An edit makes
the new text and reads it again, so that every span of a snapshot belongs to its text. How a text
is read is a parameter: the parser of `SfcWeave.Script.Parser` in the program, any other in a
statement about all of them.
-/

namespace SfcWeave.Script

/-- A way to read scripts. -/
abbrev Parser := String → Except SyntaxError Module

/-- A text and the module read from it. -/
structure Snapshot (parse : Parser) where
  text : String
  module : Module
  parsed : parse text = .ok module

/-- Why an edit of a snapshot fails. -/
inductive EditError where
  | invalidSpan (span : Span) (size : Nat)
  | syntaxError (error : SyntaxError)
deriving DecidableEq, Repr

namespace Snapshot

variable {parse : Parser}

/-- Reads a text. -/
def ofText (parse : Parser) (text : String) : Except SyntaxError (Snapshot parse) :=
  match h : parse text with
  | .ok module => .ok ⟨text, module, h⟩
  | .error error => .error error

/-- The exact text of a part of the script. -/
def source (snapshot : Snapshot parse) (span : Span) : String :=
  (span.slice? snapshot.text).getD ""

/-- Replaces the text under a span. -/
def splice (snapshot : Snapshot parse) (span : Span) (replacement : String) :
    Except EditError (Snapshot parse) :=
  match span.splice? snapshot.text replacement with
  | none => .error (.invalidSpan span snapshot.text.utf8ByteSize)
  | some text => (ofText parse text).mapError .syntaxError

/-- Adds a text at the end. -/
def append (snapshot : Snapshot parse) (text : String) : Except EditError (Snapshot parse) :=
  snapshot.splice (Span.empty snapshot.text.utf8ByteSize) text

/-- Does the script import from a module? -/
def importsFrom (snapshot : Snapshot parse) (source : String) : Bool :=
  snapshot.module.items.any fun item =>
    match item.role with
    | .importFrom other => other == source
    | _ => false

end Snapshot

end SfcWeave.Script
