namespace EntityQuery

/-- The kind of a value, by which error messages name the value without showing it. -/
inductive ValueKind
  | null
  | bool
  | int
  | float
  | decimal
  | string
  | date
  | time
  | dateTime
  | uuid
  | json
  | list
deriving DecidableEq, Repr

/-- The word for a kind in messages. -/
def ValueKind.name : ValueKind → String
  | .null => "null"
  | .bool => "bool"
  | .int => "int"
  | .float => "float"
  | .decimal => "decimal"
  | .string => "string"
  | .date => "date"
  | .time => "time"
  | .dateTime => "datetime"
  | .uuid => "uuid"
  | .json => "json"
  | .list => "list"

end EntityQuery
