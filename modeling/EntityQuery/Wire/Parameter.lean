import EntityQuery.Coercion
import EntityQuery.Json.Reader
import EntityQuery.Wire.ColumnType
import EntityQuery.Wire.Groups
import EntityQuery.Wire.Instant

namespace EntityQuery.Wire

open Numeric Text

/-- The result of binding a value that is neither null nor a list. -/
abbrev Payload := Except BindFault Bytes

namespace NativeType

variable (type : NativeType)

/-- The refusal of a value whose kind a type does not take. -/
def refuse {α : Type} (v : Value) : Except BindFault α :=
  .error (.refused v.kind type.typeName)

/-- What a text stands for; the fault names the text. -/
def readText {α : Type} (read : String → Option α) (s : String) : Except BindFault α :=
  match read s with
  | some a => .ok a
  | none => .error (.unreadable s type.typeName)

/-- The number that a whole-number type takes from a value. -/
def takeWhole : Value → Except BindFault Int64
  | .int n => .ok n
  | .bool b => .ok (if b then 1 else 0)
  | .string s => type.readText (fun s => int64OfText? (trimmed s)) s
  | v => type.refuse v

/-- The number that a floating-point type takes from a value, other than a whole number or a
decimal. -/
def takeFloat : Value → Except BindFault Binary64
  | .float x => .ok x
  | .string s => type.readText (fun s => Binary64.ofText? (trimmed s)) s
  | v => type.refuse v

def takeDecimal : Value → Except BindFault Decimal96
  | .decimal d => .ok d
  | .int n => .ok (Decimal96.ofInt64 n)
  | .float x =>
    match Decimal96.ofBinary64? x with
    | some d => .ok d
    | none => .error .notDecimal
  | .string s => type.readText (fun s => Decimal96.ofText? (trimmed s)) s
  | v => type.refuse v

def takeDate : Value → Except BindFault Date
  | .date d => .ok d
  | .dateTime dt => .ok dt.date
  | v => type.refuse v

def takeInstant : Value → Except BindFault DateTime
  | .dateTime dt => .ok dt
  | .date d => .ok ⟨d, Time.midnight⟩
  | v => type.refuse v

/-- The document that a type takes from a value. -/
def takeJson : Value → Except BindFault Json
  | .json doc => .ok doc
  | .string s => type.readText Json.ofText? s
  | v => type.refuse v

/-- The identifier that a type takes from a value. -/
def takeUuid : Value → Except BindFault Uuid
  | .uuid u => .ok u
  | .string s => type.readText Uuid.ofText? s
  | v => type.refuse v

end NativeType

/-- A whole number in a width, if it fits. -/
def wholeBytes (width : Nat) (n : Int64) : Payload :=
  if fits (8 * width) n.toInt then .ok (signedBytes width n.toInt)
  else .error (if n.toInt < 0 then .tooSmall else .tooLarge)

/-- The word of four bytes nearest to a whole number. -/
def shortWord (n : Int) : Nat :=
  binary32.roundRatio n.natAbs 1 + if n < 0 then binary32.signWeight else 0

/-- The eight bytes of a floating-point number. -/
def longFloatBytes (x : Binary64) : Bytes :=
  bigEndian 8 x.bits.toNat

/-- A value in the form of a native type. A decimal is written with eight bytes in both
floating-point types. -/
def nativePayload (type : NativeType) (v : Value) : Payload :=
  match type with
  | .bool =>
    match v with
    | .bool b => .ok [if b then 1 else 0]
    | v => type.refuse v
  | .int2 => (type.takeWhole v).bind (wholeBytes 2)
  | .int4 => (type.takeWhole v).bind (wholeBytes 4)
  | .int8 => (type.takeWhole v).bind (wholeBytes 8)
  | .float4 =>
    match v with
    | .int n => .ok (bigEndian 4 (shortWord n.toInt))
    | .decimal d => .ok (longFloatBytes d.toBinary64)
    | v => (type.takeFloat v).map fun x => bigEndian 4 x.toBinary32.toNat
  | .float8 =>
    match v with
    | .int n => .ok (longFloatBytes (Binary64.ofInt n.toInt))
    | .decimal d => .ok (longFloatBytes d.toBinary64)
    | v => (type.takeFloat v).map longFloatBytes
  | .numeric => (type.takeDecimal v).map fun d => (Groups.ofDecimal d).toBytes
  | .text | .varchar | .bpchar | .name | .unknown => .ok (textBytes v.toText)
  | .date => (type.takeDate v).map fun d => signedBytes 4 (dayNumber d)
  | .time =>
    match v with
    | .time t => .ok (signedBytes 8 (timeMicros t))
    | v => type.refuse v
  | .timestamp | .timestamptz => (type.takeInstant v).map fun dt => signedBytes 8 (instantMicros dt)
  | .uuid => (type.takeUuid v).map Uuid.bytes
  | .json => (type.takeJson v).map fun doc => textBytes doc.toText
  | .jsonb => (type.takeJson v).map fun doc => 1 :: textBytes doc.toText

/-- A value that is neither null nor a list in the form of a type. -/
def payload (type : ColumnType) (v : Value) : Payload :=
  match type with
  | .native native => nativePayload native v
  | type =>
    if type.isVersioned then .ok (1 :: textBytes v.toText)
    else if type.isText then .ok (textBytes v.toText)
    else .error (.refused v.kind type.toText)

/-- The greatest length that the four bytes in front of a cell or of a list can tell. -/
def maxLength : Nat := 2147483647

/-- Whether a cell can stand in a list. -/
def isSendable (cell : Option Bytes) : Bool :=
  cell.all fun bytes => bytes.length ≤ maxLength

/-- A cell with its length in front; null has the length minus one. -/
def cellBytes : Option Bytes → Bytes
  | none => signedBytes 4 (-1)
  | some bytes => bigEndian 4 bytes.length ++ bytes

/-- A list of cells with one dimension: a mark for nulls, the number of the element type, how many
cells there are, and the first index. -/
def arrayBytes (elementOid firstIndex : Nat) (cells : List (Option Bytes)) : Bytes :=
  bigEndian 4 1 ++ bigEndian 4 (if cells.any Option.isNone then 1 else 0) ++
    bigEndian 4 elementOid ++ bigEndian 4 cells.length ++ bigEndian 4 firstIndex ++
    cells.flatMap cellBytes

mutual

/-- A value as a parameter of a type; null has no bytes. The elements of a list are bound one by
one, and the first that is refused or too long is the fault. -/
def bind (type : ColumnType) : Value → Except BindFault (Option Bytes)
  | .null => .ok none
  | .list items =>
    match type with
    | .array element =>
      if items.length ≤ maxLength then
        (bindAll element items).map fun cells => some (arrayBytes element.oid 1 cells)
      else .error .tooLong
    | .vector element _ =>
      if items.length ≤ maxLength then
        (bindAll element items).map fun cells => some (arrayBytes element.oid 0 cells)
      else .error .tooLong
    | type => .error (.listInScalar type.toText)
  | v => (payload type v).map some

/-- The elements of a list as cells of a type. -/
def bindAll (type : ColumnType) : List Value → Except BindFault (List (Option Bytes))
  | [] => .ok []
  | item :: rest =>
    match bind type item with
    | .error fault => .error fault
    | .ok cell =>
      if isSendable cell then (bindAll type rest).map (cell :: ·) else .error .tooLong

end

end EntityQuery.Wire
