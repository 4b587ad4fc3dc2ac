import SfcWeave.Json.Skip

/-!
# Reading records

A record type lists the members of an object. They may come in any order, each at most once; a
record may also be written as the list of its members in the order of the type.
-/

namespace SfcWeave.Json

variable {α : Type}

/-- A member of a record. -/
structure Member (α : Type) where
  name : String
  /-- Reads the value of the member into a record. -/
  read : α → Reader α
  /-- Must an object have the member? -/
  required : Bool := false
  /-- May a list end before the member? -/
  elidable : Bool := false

/-- A type of records. -/
structure RecordType (α : Type) where
  name : String
  members : List (Member α)
  /-- The record whose members are all missing. -/
  empty : α
  /-- Are members with other names refused? -/
  closed : Bool := false

namespace RecordType

open Reader

/-- The first required member that has not been seen. -/
def missing? (type : RecordType α) (seen : List String) : Option String :=
  (type.members.find? fun member => member.required && !seen.contains member.name).map
    Member.name

/-- Reads the members of an object; `seen` are the names of those already read into `record`. At
most `fuel` members are read. A fault in the choice of members has no position yet. -/
def readMembers (type : RecordType α) :
    (fuel : Nat) → (first : Bool) → (seen : List String) → α → Reader (Except Fault α)
  | 0, _, _, record => return .ok record
  | fuel + 1, first, seen, record => do
    if ← hasMember first then
      skip
      let name ← stringBody
      match type.members.find? (·.name = name) with
      | some member =>
        if seen.contains name then return .error (.repeatedMember name)
        else
          colon
          let record ← member.read record
          type.readMembers fuel false (name :: seen) record
      | none =>
        if type.closed then
          return .error (.unknownMember name (type.members.map Member.name))
        else
          colon
          skipValue
          type.readMembers fuel false seen record
    else
      match type.missing? seen with
      | some name => return .error (.missingMember name)
      | none => return .ok record

/-- What a list for a record must be. -/
def listDescription (type : RecordType α) : String :=
  let count := type.members.length
  "struct " ++ type.name ++ " with " ++ toString count ++
    (if count = 1 then " element" else " elements")

/-- Reads the given members from the elements of a list; `index` elements have been read. -/
def readElements (type : RecordType α) :
    List (Member α) → (index : Nat) → (first : Bool) → α → Reader (Except Fault α)
  | [], _, _, record => return .ok record
  | member :: members, index, first, record => do
    if ← hasElement first then
      let record ← member.read record
      type.readElements members (index + 1) false record
    else if member.elidable then type.readElements members (index + 1) first record
    else return .error (.tooShort index type.listDescription)

/-- Reads a record. -/
def read (type : RecordType α) : Reader α := do
  match ← valueStart with
  | '\x7b' => do
    skip
    let result ← type.readMembers ((← remaining) + 1) true [] type.empty
    close objectEnd result
  | '[' => do
    skip
    let result ← type.readElements type.members 0 true type.empty
    close listEnd result
  | _ => refuse ("struct " ++ type.name)

end RecordType

end SfcWeave.Json
