import EntityQuery.Expr.Text
import EntityQuery.Session

namespace EntityQuery

def Join.toText (j : Join) : String :=
  j.kind.keyword ++ " " ++ j.target ++ " " ++ j.tableAlias ++
    match j.condition? with
    | some condition => " WITH " ++ condition
    | none => ""

def SortEntry.toText (entry : SortEntry) : String :=
  match entry.direction? with
  | some direction => entry.text ++ " " ++ direction.keyword
  | none => entry.text

def Assignment.toText (a : Assignment) : String :=
  a.target ++ " = :" ++ a.param

/-- A clause with a predicate, which is missing when the predicate contains no condition. -/
def predicateClause (keyword : String) (predicate? : Option Expr) : String :=
  match predicate? with
  | none => ""
  | some predicate => if predicate.isEmpty then "" else keyword ++ predicate.toText

/-- A clause with a list of entries, which is missing when there are none. -/
def listClause (keyword : String) (entries : List String) : String :=
  if entries.isEmpty then "" else keyword ++ ", ".intercalate entries

namespace Session

variable (s : Session)

/-- The beginning of the statement, up to its conditions. -/
def headText : String :=
  let name := s.entityAlias
  match s.kind with
  | .select =>
    "SELECT " ++ (if s.distinct then "DISTINCT " else "") ++
      (if s.select.isEmpty then name else ", ".intercalate s.select) ++
      " FROM " ++ s.entity.name ++ " " ++ name ++
      String.join (s.joins.map fun j => " " ++ j.toText)
  | .update =>
    "UPDATE " ++ s.entity.name ++ " " ++ name ++ " SET " ++
      ", ".intercalate (s.set.map Assignment.toText)
  | .delete => "DELETE FROM " ++ s.entity.name ++ " " ++ name

/-- The grouping, the condition on groups and the ordering, which only a selection has. -/
def tailText : String :=
  match s.kind with
  | .select =>
    listClause " GROUP BY " s.groupBy ++ predicateClause " HAVING " s.having? ++
      listClause " ORDER BY " (s.orderBy.map SortEntry.toText)
  | _ => ""

/-- The text of the session in the words of its entity: fields by their names, and values by named
placeholders. The window is not part of it. -/
def toText : String :=
  s.headText ++ predicateClause " WHERE " s.where? ++ s.tailText

end Session

end EntityQuery
