import EntityQuery.Text.Hex

namespace EntityQuery

/-- An identifier of sixteen bytes. -/
structure Uuid where
  bytes : List UInt8
  length_bytes : bytes.length = 16
deriving DecidableEq, Repr

namespace Uuid

/-- The identifier of a list of bytes, if there are sixteen. -/
def ofBytes? (bytes : List UInt8) : Option Uuid :=
  if h : bytes.length = 16 then some ⟨bytes, h⟩ else none

/-- The text of an identifier: groups of 8, 4, 4, 4 and 12 digits with hyphens between them. -/
def toText (u : Uuid) : String :=
  let digits := Text.hexText u.bytes
  let group := fun first length => (digits.drop first).take length
  String.ofList
    (['-'].intercalate [group 0 8, group 8 4, group 12 4, group 16 4, group 20 12])

/-- Reads the five groups with their hyphens. -/
def ofGroups? (cs : List Char) : Option Uuid :=
  if cs.length = 36 ∧ [8, 13, 18, 23].all fun i => cs[i]? == some '-' then
    let group := fun first length => (cs.drop first).take length
    let digits := group 0 8 ++ group 9 4 ++ group 14 4 ++ group 19 4 ++ group 24 12
    (Text.hexBytes? digits).bind ofBytes?
  else none

/-- What stands between a pair of braces that enclose a text. -/
def insideBraces? (cs : List Char) : Option (List Char) :=
  match cs with
  | '\x7b' :: rest => if rest.getLast? = some '\x7d' then some rest.dropLast else none
  | _ => none

/-- Reads an identifier: 32 digits, or five groups that may stand in braces or behind
`urn:uuid:`. -/
def ofText? (s : String) : Option Uuid :=
  let cs := s.toList
  if cs.length = 32 then (Text.hexBytes? cs).bind ofBytes?
  else
    match insideBraces? cs, "urn:uuid:".toList.isPrefixOf? cs with
    | some inside, _ => ofGroups? inside
    | none, some groups => ofGroups? groups
    | none, none => ofGroups? cs

end Uuid

end EntityQuery
