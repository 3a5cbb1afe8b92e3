import EntityQuery.Coercion
import EntityQuery.Value

namespace EntityQuery

/-- The cells of a row with the names of their columns, in the order of the selection. Several
cells may have one name; the first of them is found by it. -/
structure Record where
  cells : List (String × Value) := []
deriving Repr

namespace Record

variable (r : Record)

/-- Adds a cell behind the others. -/
def push (column : String) (value : Value) : Record :=
  ⟨r.cells ++ [(column, value)]⟩

def get? (column : String) : Option Value :=
  r.cells.lookup column

/-- The value of the first column. -/
def first? : Option Value :=
  r.cells.head?.map Prod.snd

def columns : List String :=
  r.cells.map Prod.fst

/-- The row as a document. Of several cells with one name the last one counts. -/
def toJson : Json :=
  .ofMembers (r.cells.map fun (column, value) => (column, value.toJson))

end Record

/-- The forms in which a cell can be read. The numeric forms accept every number that they hold
exactly, the other ones only values of their own kind. -/
inductive CellForm
  | value
  | bool
  | int16
  | int32
  | int64
  | float32
  | float64
  | decimal
  | string
  | date
  | time
  | dateTime
  | instant
  | uuid
  | json
deriving DecidableEq, Repr

namespace CellForm

/-- Every form. -/
def all : List CellForm :=
  [value, bool, int16, int32, int64, float32, float64, decimal, string, date, time, dateTime,
    instant, uuid, json]

/-- The short name of a form, by which callers ask for it. -/
def name : CellForm → String
  | value => "value"
  | bool => "bool"
  | int16 => "i16"
  | int32 => "i32"
  | int64 => "i64"
  | float32 => "f32"
  | float64 => "f64"
  | decimal => "decimal"
  | string => "string"
  | date => "date"
  | time => "time"
  | dateTime => "datetime"
  | instant => "datetimetz"
  | uuid => "uuid"
  | json => "json"

/-- The name of a form in messages, with the path of the type that holds it. -/
def path : CellForm → String
  | value => "pgfluent::value::Value"
  | decimal => "rust_decimal::decimal::Decimal"
  | string => "alloc::string::String"
  | date => "chrono::naive::date::NaiveDate"
  | time => "chrono::naive::time::NaiveTime"
  | dateTime => "chrono::naive::datetime::NaiveDateTime"
  | instant => "chrono::datetime::DateTime<chrono::offset::utc::Utc>"
  | uuid => "uuid::Uuid"
  | json => "serde_json::value::Value"
  | scalar => scalar.name

/-- The whole number of a value, if the value is one and fits the given number of bits. -/
def wholeOf? (bits : Nat) (v : Value) : Option Int64 :=
  let fitting := fun n : Int64 => if Numeric.fits bits n.toInt then some n else none
  match v with
  | .int n => fitting n
  | .decimal d => if d.isWhole then d.toInt64?.bind fitting else none
  | _ => none

/-- The floating-point number of a numeric value. -/
def floatOf? : Value → Option Binary64
  | .float x => some x
  | .int n => some (Binary64.ofInt n.toInt)
  | .decimal d => some d.toBinary64
  | _ => none

/-- The decimal of a numeric value. -/
def decimalOf? : Value → Option Decimal96
  | .decimal d => some d
  | .int n => some (Decimal96.ofInt64 n)
  | .float x => Decimal96.ofBinary64? x
  | _ => none

/-- A value in a form, if it can have the form. A number of four bytes is widened again. -/
def read? (form : CellForm) (v : Value) : Option Value :=
  match form, v with
  | value, v => some v
  | int16, v => (wholeOf? 16 v).map .int
  | int32, v => (wholeOf? 32 v).map .int
  | int64, v => (wholeOf? 64 v).map .int
  | float64, v => (floatOf? v).map .float
  | float32, v => (floatOf? v).map fun x => .float (Binary64.ofBinary32 x.toBinary32)
  | decimal, v => (decimalOf? v).map .decimal
  | json, v => some (.json v.toJson)
  | bool, .bool b => some (.bool b)
  | string, .string s => some (.string s)
  | date, .date d => some (.date d)
  | time, .time t => some (.time t)
  | dateTime, .dateTime dt => some (.dateTime dt)
  | instant, .dateTime dt => some (.dateTime dt)
  | uuid, .uuid u => some (.uuid u)
  | _, _ => none

end CellForm

/-- What a reader asks of a cell: a form, and whether the cell may be null. -/
structure CellType where
  form : CellForm
  nullable : Bool := false
deriving DecidableEq, Repr

namespace CellType

/-- The name of a cell type in messages. -/
def path (type : CellType) : String :=
  if type.nullable then "core::option::Option<" ++ type.form.path ++ ">" else type.form.path

/-- Reads the short name of a form, with a question mark behind it if null is allowed. -/
def ofName? (s : String) : Option CellType :=
  match CellForm.all.find? fun form => form.name == s with
  | some form => some ⟨form, false⟩
  | none => (CellForm.all.find? fun form => form.name ++ "?" == s).map fun form => ⟨form, true⟩

/-- A value as a cell of a type: nothing for a null that is allowed. -/
def read? (type : CellType) (v : Value) : Option (Option Value) :=
  if type.nullable && v.isNull then some none else (type.form.read? v).map some

end CellType

/-- Reads a column of a row. Nothing stands for a null that is allowed. -/
def Record.tryGet (r : Record) (column : String) (type : CellType) :
    Except QueryError (Option Value) :=
  match r.get? column with
  | none => .error (.decode column .absent)
  | some v =>
    match type.read? v with
    | some cell => .ok cell
    | none => .error (.decode column (.conversion v.kind type.path))

end EntityQuery
