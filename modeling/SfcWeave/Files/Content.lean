/-!
# The contents of files

A file is text when its bytes are UTF-8. Reading and writing fail for a few reasons, which have
the wording of the operating system.
-/

namespace SfcWeave

/-- What a file holds. -/
inductive Content where
  | text (text : String)
  /-- Bytes that are not UTF-8. -/
  | binary (bytes : List UInt8)
deriving DecidableEq, Repr

namespace Content

/-- The content with the given bytes. -/
def ofBytes (bytes : List UInt8) : Content :=
  match String.fromUTF8? ⟨bytes.toArray⟩ with
  | some decoded => .text decoded
  | none => .binary bytes

end Content

/-- Why an operation on files or on a process fails. -/
inductive SystemError where
  | notFound
  | denied
  | alreadyExists
  | notDirectory
  | isDirectory
  | brokenPipe
  | notText
deriving DecidableEq, Repr

namespace SystemError

/-- The wording of a failure. -/
def message : SystemError → String
  | notFound => "No such file or directory (os error 2)"
  | denied => "Permission denied (os error 13)"
  | alreadyExists => "File exists (os error 17)"
  | notDirectory => "Not a directory (os error 20)"
  | isDirectory => "Is a directory (os error 21)"
  | brokenPipe => "Broken pipe (os error 32)"
  | notText => "stream did not contain valid UTF-8"

end SystemError

end SfcWeave
