import EntityQuery.Keyed
import EntityQuery.Numeric.Binary64

namespace EntityQuery

/-- A number of a document: an integer of eight bytes, with or without sign, or a floating-point
number. -/
inductive JsonNumber
  | int (n : Int)
  | float (x : Binary64)
deriving DecidableEq, Repr

/-- A JSON document. The members of an object are kept sorted by key without repetition, so that two
documents with the same content are equal. -/
inductive Json
  | null
  | bool (b : Bool)
  | number (n : JsonNumber)
  | string (s : String)
  | array (items : List Json)
  | object (members : List (String × Json))
deriving Repr, Inhabited

namespace Json

/-- The object of a list of members. Of several members with one key the last one counts. -/
def ofMembers (members : List (String × Json)) : Json :=
  .object (members.foldl (fun sorted (key, value) => Keyed.insert key value sorted) [])

/-- The member of a key, if the document is an object that has it. -/
def member? (doc : Json) (key : String) : Option Json :=
  match doc with
  | .object members => members.lookup key
  | _ => none

/-- An integer as a document. -/
def ofInt (n : Int) : Json :=
  .number (.int n)

/-- A floating-point number as a document. What is not finite has no form of its own. -/
def ofBinary64 (x : Binary64) : Json :=
  if x.isFinite then .number (.float x) else .null

end Json

end EntityQuery
