import EntityQuery.Metadata
import EntityQuery.Parameters
import EntityQuery.Sql.Segment

namespace EntityQuery

/-- A statement with the values of its parameters. -/
structure BuiltQuery where
  sql : String
  params : List Value
deriving Repr

namespace Sql

/-- What a statement's text refers to. -/
structure Scope where
  entity : EntityMeta
  entityAlias : String
  table : ParamTable

/-- A statement as far as it is written: its text, the values in the order of their numbers, and
what was written for each placeholder, because a name that occurs again is written in the same
way. -/
structure Writer where
  sql : String := ""
  params : List Value := []
  written : List (String × String) := []
deriving Repr

/-- The reference to the parameter of a number. -/
def parameterText (n : Nat) : String :=
  "$" ++ toString n

/-- The references to the parameters from number `first` on, as many as there are values. -/
def listText (first : Nat) (values : List Value) : String :=
  if values.isEmpty then "NULL"
  else ", ".intercalate ((List.range values.length).map fun i => parameterText (first + i))

namespace Writer

def push (w : Writer) (text : String) : Writer :=
  { w with sql := w.sql ++ text }

/-- The text for a placeholder, with the values that it adds. A name that was written before is
written again in the same way. A list that is the sole item behind `IN` adds its elements, and
every other value is one parameter. -/
def bind (w : Writer) (table : ParamTable) (name : String) (inList : Bool) :
    Except ValidationFault (String × Writer) :=
  match w.written.lookup name with
  | some text => .ok (text, w)
  | none =>
    match table.value? name with
    | none => .error (.unboundParameter name)
    | some value =>
      let added :=
        match value, inList with
        | .list items, true => items
        | single, _ => [single]
      let text := listText (w.params.length + 1) added
      .ok
        (text,
          { w with params := w.params ++ added, written := (name, text) :: w.written })

/-- Writes one segment: a field by its column, a placeholder by its number. -/
def pushSegment (scope : Scope) (w : Writer) : Segment → Except ValidationFault Writer
  | .verbatim text => .ok (w.push (String.ofList text))
  | .field name =>
    let column := scope.entity.columnOf (String.ofList name)
    .ok (w.push (sqlWord scope.entityAlias ++ "." ++ sqlWord column))
  | .placeholder name inList =>
    match w.bind scope.table (String.ofList name) inList with
    | .error fault => .error fault
    | .ok (text, w) => .ok (w.push text)

/-- Writes a text that names fields and placeholders. -/
def pushText (scope : Scope) (w : Writer) (text : String) : Except ValidationFault Writer :=
  (segments scope.entityAlias text).foldlM (pushSegment scope) w

def finish (w : Writer) : BuiltQuery :=
  ⟨w.sql, w.params⟩

end Writer

end Sql

end EntityQuery
