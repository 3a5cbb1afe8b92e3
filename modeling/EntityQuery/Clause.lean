import EntityQuery.Text.Basic

namespace EntityQuery

/-- What a statement does to the rows it selects. -/
inductive StatementKind
  | select
  | update
  | delete
deriving DecidableEq, Repr

def StatementKind.name : StatementKind → String
  | .select => "Select"
  | .update => "Update"
  | .delete => "Delete"

/-- How rows without a partner are treated by a join. -/
inductive JoinKind
  | inner
  | left
deriving DecidableEq, Repr

def JoinKind.keyword : JoinKind → String
  | .inner => "INNER JOIN"
  | .left => "LEFT JOIN"

/-- The direction of one ordering entry. -/
inductive Direction
  | ascending
  | descending
deriving DecidableEq, Repr

def Direction.keyword : Direction → String
  | .ascending => "ASC"
  | .descending => "DESC"

/-- Reads a direction's keyword in any case. -/
def Direction.ofText? (s : String) : Option Direction :=
  if Text.sameIgnoringCase s "asc" then some .ascending
  else if Text.sameIgnoringCase s "desc" then some .descending
  else none

theorem Direction.ofText?_keyword (d : Direction) : ofText? d.keyword = some d := by
  cases d <;> decide +kernel

end EntityQuery
