import EntityQuery.Calendar.Reader
import EntityQuery.Config
import EntityQuery.Metadata
import EntityQuery.Numeric.Decimal96.Binary
import EntityQuery.Numeric.Decimal96.Text
import EntityQuery.Text.Basic
import EntityQuery.Value

namespace EntityQuery

open Numeric Text

namespace Value

/-- The integer a value stands for. Fractions are cut; a text may be any finite number. -/
def toInt64? : Value → Option Int64
  | int n => some n
  | bool b => some (if b then 1 else 0)
  | float x => if x.isFinite then some (clampInt64 x.truncate) else none
  | decimal d => d.toInt64?
  | string s =>
    match int64OfText? (trimmed s) with
    | some n => some n
    | none =>
      match Binary64.ofText? (trimmed s) with
      | some x => if x.isFinite then some (clampInt64 x.truncate) else none
      | none => none
  | _ => none

/-- The floating-point number a value stands for. -/
def toBinary64? : Value → Option Binary64
  | float x => some x
  | int n => some (Binary64.ofInt n.toInt)
  | bool b => some (Binary64.ofInt (if b then 1 else 0))
  | decimal d => some d.toBinary64
  | string s => Binary64.ofText? (trimmed s)
  | _ => none

/-- The decimal a value stands for. -/
def toDecimal? : Value → Option Decimal96
  | decimal d => some d
  | int n => some (Decimal96.ofInt64 n)
  | bool b => some (Decimal96.ofInt64 (if b then 1 else 0))
  | float x => Decimal96.ofBinary64? x
  | string s => Decimal96.ofText? (trimmed s)
  | _ => none

def falseTexts : List String :=
  ["", "0", "false", "f", "no", "off"]

/-- The truth value a value stands for: everything is true but zero, the false texts and what is
empty. -/
def toBool : Value → Bool
  | bool b => b
  | int n => n != 0
  | float x => x.word != 0
  | decimal d => d.mantissa != 0
  | string s => !falseTexts.contains (asciiLower (trimmed s))
  | other => !other.isEmpty

/-- The date a value stands for, with texts read by a pattern. -/
def toDate? (pattern : String) : Value → Option Date
  | date d => some d
  | dateTime dt => some dt.date
  | string s => Date.ofText? pattern (trimmed s)
  | _ => none

/-- The time a value stands for, with texts read by a pattern. -/
def toTime? (pattern : String) : Value → Option Time
  | time t => some t
  | dateTime dt => some dt.time
  | string s => Time.ofText? pattern (trimmed s)
  | _ => none

/-- The date with a time that a value stands for. A text that does not have the pattern's form may
have the interchange form. -/
def toDateTime? (pattern : String) : Value → Option DateTime
  | dateTime dt => some dt
  | date d => some ⟨d, Time.midnight⟩
  | string s =>
    (DateTime.ofText? pattern (trimmed s)).or (Calendar.ofInterchange? (trimmed s))
  | _ => none

end Value

/-- The patterns by which texts of the temporal types are read. -/
structure Patterns where
  date : String
  time : String
  dateTime : String
deriving DecidableEq, Repr

/-- The configured patterns, or one pattern that was asked for instead of them. -/
def Config.patterns (config : Config) : Option String → Patterns
  | none => ⟨config.datePattern, config.timePattern, config.dateTimePattern⟩
  | some pattern => ⟨pattern, pattern, pattern⟩

/-- A value that is neither null nor a list in the form of a type, if it can have that form. -/
def FieldType.coerceScalar? (patterns : Patterns) (type : FieldType) (value : Value) :
    Option Value :=
  match type with
  | .string =>
    match value with
    | Value.string s => some (.string s)
    | scalar => some (.string scalar.toText)
  | .smallInt | .integer | .bigInt => value.toInt64?.map .int
  | .boolean => some (.bool value.toBool)
  | .decimal => value.toDecimal?.map .decimal
  | .float => value.toBinary64?.map .float
  | .date => (value.toDate? patterns.date).map .date
  | .time => (value.toTime? patterns.time).map .time
  | .dateTime | .dateTimeTz => (value.toDateTime? patterns.dateTime).map .dateTime
  | .guid =>
    match value with
    | Value.string s => (Uuid.ofText? (trimmed s)).map .uuid
    | scalar => some scalar
  | .json | .other => some value

mutual

/-- A value in the form of a type: null stays, the elements of a list are coerced one by one. The
fault is the first element that cannot have the form. -/
def FieldType.coerce (patterns : Patterns) (type : FieldType) : Value → Except Value Value
  | .null => .ok .null
  | .list items => (coerceAll patterns type items).map .list
  | scalar =>
    match type.coerceScalar? patterns scalar with
    | some coerced => .ok coerced
    | none => .error scalar

/-- The elements of a list in the form of a type. -/
def FieldType.coerceAll (patterns : Patterns) (type : FieldType) :
    List Value → Except Value (List Value)
  | [] => .ok []
  | item :: rest =>
    match FieldType.coerce patterns type item with
    | .error fault => .error fault
    | .ok coerced => (coerceAll patterns type rest).map (coerced :: ·)

end

/-- Coerces a value to the declared type of a field. Values of temporal fields stay as they are
when that is asked for, and when they are empty. -/
def EntityMeta.coerce (entity : EntityMeta) (config : Config) (field : String) (value : Value)
    (pattern : Option String) (skipTemporal : Bool) : Except ArgumentFault Value :=
  match entity.typeOf? field with
  | none => .ok value
  | some type =>
    if type.isTemporal && (skipTemporal || value.isEmpty) then .ok value
    else
      match type.coerce (config.patterns pattern) value with
      | .ok coerced => .ok coerced
      | .error fault =>
        .error (.mismatch entity.shortName field type fault.kind fault.toText)

end EntityQuery
