import EntityQuery.Session.Fetch
import EntityQuery.Wire.Cell
import EntityQuery.Wire.Parameter

namespace EntityQuery.Wire

/-- What the database declares for a statement, and what it answers to it. -/
structure Answer where
  paramTypes : List ColumnType := []
  columns : List (String × ColumnType) := []
  rows : List (List (Option Bytes)) := []
  /-- What the database says about a statement that it has run. -/
  tag : String := ""
deriving Repr

/-- A connection, by what the database answers to the text of a statement; nothing if it refuses
the statement. -/
structure Connection where
  run : String → Option Answer

/-- Binds values to the types of parameters; `index` is the number of the first one. -/
def bindFrom (index : Nat) :
    List (ColumnType × Value) → Except ExchangeFault (List (Option Bytes))
  | [] => .ok []
  | (type, value) :: rest =>
    match bind type value with
    | .error _ => .error (.parameter index)
    | .ok cell => (bindFrom (index + 1) rest).map (cell :: ·)

/-- The values of a statement as the database gets them. -/
def Answer.bindAll (answer : Answer) (params : List Value) :
    Except ExchangeFault (List (Option Bytes)) :=
  if params.length = answer.paramTypes.length then bindFrom 0 (answer.paramTypes.zip params)
  else .error (.parameterCount answer.paramTypes.length params.length)

/-- Reads the cells of a row by the types of their columns; `index` is the number of the first
one. -/
def readRow (index : Nat) :
    List ((String × ColumnType) × Option Bytes) → Except QueryError Record
  | [] => .ok {}
  | ((column, type), cell) :: rest =>
    match readCell? type cell with
    | none => .error (.decode column (.malformed index))
    | some value => (readRow (index + 1) rest).map fun record => ⟨(column, value) :: record.cells⟩

/-- The number of changed rows that a tag tells: its last word, if that is a number of eight
bytes. -/
def affectedRows (tag : String) : Nat :=
  let word := (tag.toList.reverse.takeWhile (· != ' ')).reverse
  match Text.natural? word with
  | some n => if n < Nat.pow 2 64 then n else 0
  | none => 0

/-- The texts that the database gets for a statement, which may open a transaction. -/
def statements (transaction : Bool) (query : BuiltQuery) : List String :=
  if transaction then ["START TRANSACTION", query.sql] else [query.sql]

namespace Connection

variable (connection : Connection) (query : BuiltQuery)

/-- What the database answers to a statement, and the values as it gets them. -/
def exchange : Except ExchangeFault (Answer × List (Option Bytes)) :=
  match connection.run query.sql with
  | none => .error .refused
  | some answer => (answer.bindAll query.params).map fun cells => (answer, cells)

/-- The rows of a statement. -/
def fetch : Except QueryError (List Record) :=
  ((connection.exchange query).mapError .exchange).bind fun (answer, _) =>
    answer.rows.mapM fun row => readRow 0 (answer.columns.zip row)

/-- The number of rows that a statement changes. -/
def execute : Except QueryError Nat :=
  ((connection.exchange query).mapError .exchange).map fun (answer, _) => affectedRows answer.tag

/-- The connection as a backend of sessions. Rows have one form on the wire, whatever the shape in
which they are asked for. -/
def toBackend : Backend :=
  ⟨fun query _ => connection.fetch query, connection.execute⟩

end Connection

end EntityQuery.Wire
