import EntityQuery.Text.Basic

namespace EntityQuery

/-- The declared meaning of the values of an entity's field. -/
inductive FieldType
  | string
  | smallInt
  | integer
  | bigInt
  | boolean
  | decimal
  | float
  | date
  | time
  | dateTime
  | dateTimeTz
  | guid
  | json
  | other
deriving DecidableEq, Repr

namespace FieldType

/-- Every field type, in the order of the declaration. -/
def all : List FieldType :=
  [.string, .smallInt, .integer, .bigInt, .boolean, .decimal, .float, .date, .time, .dateTime,
    .dateTimeTz, .guid, .json, .other]

def name : FieldType → String
  | string => "string"
  | smallInt => "smallint"
  | integer => "integer"
  | bigInt => "bigint"
  | boolean => "boolean"
  | decimal => "decimal"
  | float => "float"
  | date => "date"
  | time => "time"
  | dateTime => "datetime"
  | dateTimeTz => "datetimetz"
  | guid => "guid"
  | json => "json"
  | other => "other"

/-- The second names that some types are known by. -/
def synonyms : List (String × FieldType) :=
  [("text", string), ("int", integer), ("bool", boolean), ("numeric", decimal), ("uuid", guid),
    ("jsonb", json)]

/-- Reads a canonical name, in lower case only. -/
def ofName? (s : String) : Option FieldType :=
  all.find? fun t => t.name == s

/-- Reads a canonical name or a synonym, in any case. -/
def ofText? (s : String) : Option FieldType :=
  let word := Text.asciiLower s
  (ofName? word).or (synonyms.lookup word)

/-- Dates, times and timestamps, which are read with a pattern. -/
def isTemporal : FieldType → Bool
  | date | time | dateTime | dateTimeTz => true
  | _ => false

theorem ofName?_name (t : FieldType) : ofName? t.name = some t := by
  cases t <;> decide +kernel

end FieldType

end EntityQuery
