import EntityQuery.Json.Reader
import EntityQuery.Value
import EntityQuery.Wire.ColumnType
import EntityQuery.Wire.Groups
import EntityQuery.Wire.Instant

namespace EntityQuery.Wire

/-- The value of the eight bytes of a whole number. -/
def longWhole (bytes : Bytes) : Value :=
  .int (Int64.ofInt (ofSignedBytes bytes))

/-- The document of the text that bytes encode. -/
def readJson? (bytes : Bytes) : Option Value :=
  ((ofTextBytes? bytes).bind Json.ofText?).map .json

def readNative? (type : NativeType) (bytes : Bytes) : Option Value :=
  match type with
  | .bool => (ofWidth? 1 bytes).map fun bytes => .bool (ofBigEndian bytes != 0)
  | .int2 => (ofWidth? 2 bytes).map longWhole
  | .int4 => (ofWidth? 4 bytes).map longWhole
  | .int8 => (ofWidth? 8 bytes).map longWhole
  | .float4 => (ofWidth? 4 bytes).map fun bytes =>
      .float (Binary64.ofBinary32 (UInt32.ofNat (ofBigEndian bytes)))
  | .float8 => (ofWidth? 8 bytes).map fun bytes => .float ⟨UInt64.ofNat (ofBigEndian bytes)⟩
  | .numeric => ((Groups.ofBytes? bytes).bind Groups.toDecimal?).map .decimal
  | .text | .varchar | .bpchar | .name | .unknown => (ofTextBytes? bytes).map .string
  | .date => ((ofWidth? 4 bytes).bind fun bytes => ofDayNumber? (ofSignedBytes bytes)).map .date
  | .time => ((ofWidth? 8 bytes).bind fun bytes => ofTimeMicros? (ofSignedBytes bytes)).map .time
  | .timestamp | .timestamptz =>
    ((ofWidth? 8 bytes).bind fun bytes => ofInstantMicros? (ofSignedBytes bytes)).map .dateTime
  | .uuid => (Uuid.ofBytes? bytes).map .uuid
  | .json => readJson? bytes
  | .jsonb =>
    match bytes with
    | 1 :: doc => readJson? doc
    | _ => none

/-- Reads a number of elements, each behind its length. A negative length is a null, which no list
may have, and nothing may stand behind the last element. -/
def readElements? (type : NativeType) : Nat → Bytes → Option (List Value)
  | 0, bytes => if bytes.isEmpty then some [] else none
  | count + 1, bytes => do
    let (head, rest) ← takeBytes? 4 bytes
    let length := ofSignedBytes head
    if length < 0 then none
    else
      let (element, rest) ← takeBytes? length.toNat rest
      let value ← readNative? type element
      return value :: (← readElements? type count rest)

/-- Reads a list. It has one dimension, or none if it is empty. -/
def readArray? (type : NativeType) (bytes : Bytes) : Option Value := do
  let (dimensions, rest) ← takeBytes? 4 bytes
  let (_, rest) ← takeBytes? 8 rest
  if ofBigEndian dimensions = 0 then (readElements? type 0 rest).map .list
  else if ofBigEndian dimensions = 1 then
    let (count, rest) ← takeBytes? 4 rest
    let (_, rest) ← takeBytes? 4 rest
    if ofSignedBytes count < 0 then none
    else (readElements? type (ofBigEndian count) rest).map .list
  else none

/-- The types whose lists can be read. -/
def listElements : List NativeType :=
  [.int4, .int8, .text, .varchar]

/-- How the bytes of a column's cells are read, if cells of its type can be read at all. -/
def reader? : ColumnType → Option (Bytes → Option Value)
  | .native type => some (readNative? type)
  | .array (.native type) => if type ∈ listElements then some (readArray? type) else none
  | type =>
    if type.isVersioned then
      some fun bytes =>
        match bytes with
        | 1 :: text => (ofTextBytes? text).map .string
        | _ => none
    else if type.isText then some fun bytes => (ofTextBytes? bytes).map .string
    else none

/-- The value of a cell, whose bytes are missing when it is null. Bytes that are not the form of a
value of the column's type have no value. -/
def readCell? (type : ColumnType) (cell : Option Bytes) : Option Value :=
  (reader? type).bind fun read =>
    match cell with
    | none => some .null
    | some bytes => read bytes

end EntityQuery.Wire
