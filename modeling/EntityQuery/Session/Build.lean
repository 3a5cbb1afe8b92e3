import EntityQuery.Session.Text
import EntityQuery.Sql.Writer

namespace EntityQuery.Session

open Sql

/-- What a part of a statement does to the writer. -/
abbrev Part := Writer → Except ValidationFault Writer

variable (s : Session)

/-- What the session's texts refer to. -/
def scope : Scope :=
  ⟨s.entity, s.entityAlias, s.params⟩

/-- The alias as it is written in statements. -/
def sqlAlias : String :=
  sqlWord s.entityAlias

/-- The table and the alias as they are written in statements. -/
def source (separator : String) : String :=
  sqlTable s.entity.table ++ separator ++ s.sqlAlias

/-- Writes text as it is. -/
def plain (text : String) : Part :=
  fun w => .ok (w.push text)

/-- Writes text that names fields and placeholders. -/
def resolved (text : String) : Part :=
  fun w => w.pushText s.scope text

/-- Writes several parts, one behind the other. -/
def inOrder (parts : List Part) : Part :=
  fun w => parts.foldlM (fun w part => part w) w

def commaList (items : List Part) : Part :=
  inOrder ((items.intersperse (plain ", ")))

/-- Writes a selected item: all columns for the alias itself. -/
def selectItem (item : String) : Part :=
  if item = s.entityAlias then plain (s.sqlAlias ++ ".*") else s.resolved item

/-- The association that a join names by the alias. -/
def associationOf? (target : String) : Option AssociationMeta :=
  match s.entityAlias.toList.isPrefixOf? target.toList with
  | some ('.' :: name) => s.entity.association? (String.ofList name)
  | _ => none

/-- Writes a join. An association is joined by its key, and a further condition is added to that;
any other target needs a condition. -/
def joinPart (j : Join) : Part :=
  let condition := fun keyword =>
    match j.condition? with
    | some text => [plain keyword, s.resolved text]
    | none => []
  match s.associationOf? j.target, j.condition? with
  | some assoc, _ =>
    inOrder
      (plain
          (" " ++ j.kind.keyword ++ " " ++ sqlTable assoc.targetTable ++ " " ++ j.tableAlias ++
            " ON " ++ j.tableAlias ++ "." ++ sqlWord assoc.referencedColumn ++ " = " ++
            s.sqlAlias ++ "." ++ sqlWord assoc.joinColumn) ::
        condition " AND ")
  | none, some _ =>
    inOrder
      (plain (" " ++ j.kind.keyword ++ " " ++ j.target ++ " " ++ j.tableAlias) :: condition " ON ")
  | none, none => fun _ => .error (.joinWithoutCondition j.target s.entity.shortName)

def joinsPart : Part :=
  inOrder (s.joins.map s.joinPart)

/-- Writes a clause with a predicate, unless the predicate contains no condition. -/
def predicatePart (keyword : String) (predicate? : Option Expr) : Part :=
  match predicate? with
  | none => inOrder []
  | some predicate =>
    if predicate.isEmpty then inOrder []
    else inOrder [plain keyword, s.resolved predicate.toText]

/-- Writes the condition on rows. -/
def wherePart : Part :=
  s.predicatePart " WHERE " s.where?

/-- Writes the grouping and the condition on groups. -/
def groupingPart : Part :=
  inOrder
    [if s.groupBy.isEmpty then inOrder []
      else inOrder [plain " GROUP BY ", s.resolved (", ".intercalate s.groupBy)],
      s.predicatePart " HAVING " s.having?]

def sortPart (entry : SortEntry) : Part :=
  match entry.direction? with
  | some direction => inOrder [s.resolved entry.text, plain (" " ++ direction.keyword)]
  | none => s.resolved entry.text

def orderingPart : Part :=
  if s.orderBy.isEmpty then inOrder []
  else inOrder [plain " ORDER BY ", commaList (s.orderBy.map s.sortPart)]

/-- The text of the window. An offset of zero is not written. -/
def windowText : String :=
  (match s.maxResults? with
    | some max => " LIMIT " ++ toString max
    | none => "") ++
    match s.firstResult? with
    | some (offset + 1) => " OFFSET " ++ toString (offset + 1)
    | _ => ""

/-- Writes the selected items and where they are selected from. -/
def selectPart : Part :=
  inOrder
    [plain ("SELECT " ++ if s.distinct then "DISTINCT " else ""),
      if s.select.isEmpty then plain (s.sqlAlias ++ ".*")
      else commaList (s.select.map s.selectItem),
      plain (" FROM " ++ s.source " "), s.joinsPart]

def assignmentPart (a : Assignment) : Part :=
  inOrder
    [plain (sqlWord (s.entity.columnOf (s.resolver.strip a.target)) ++ " = "),
      s.resolved (":" ++ a.param)]

def statementPart : Part :=
  match s.kind with
  | .select =>
    inOrder [s.selectPart, s.wherePart, s.groupingPart, s.orderingPart, plain s.windowText]
  | .update =>
    if s.set.isEmpty then fun _ => .error .updateWithoutSet
    else
      inOrder
        [plain ("UPDATE " ++ s.source " AS " ++ " SET "),
          commaList (s.set.map s.assignmentPart), s.wherePart]
  | .delete => inOrder [plain ("DELETE FROM " ++ s.source " AS "), s.wherePart]

/-- Whether the rows have to be counted through a subquery. -/
def isGrouped : Bool :=
  !s.groupBy.isEmpty || s.having?.isSome || s.distinct

/-- Writes the statement that counts the rows of a selection, without ordering and window. -/
def countPart : Part :=
  if s.isGrouped then
    inOrder
      [plain "SELECT COUNT(*) FROM (", s.selectPart, s.wherePart, s.groupingPart, plain ") AS t"]
  else
    inOrder [plain ("SELECT COUNT(*) FROM " ++ s.source " "), s.joinsPart, s.wherePart]

/-- The statement of the session, with tables and columns instead of entities and fields, and
numbered parameters instead of named ones. -/
def build : Except ValidationFault BuiltQuery :=
  (s.statementPart {}).map Writer.finish

/-- The statement that counts the rows of the session. -/
def buildCount : Except ValidationFault BuiltQuery :=
  match s.kind with
  | .select => (s.countPart {}).map Writer.finish
  | _ => .error .countOfMutation

/-- The text of the counting statement. It needs the alias, which is fixed by that. -/
def countSql : Except ValidationFault String × Session :=
  match s.kind with
  | .select => (s.buildCount.map BuiltQuery.sql, s.fixAlias)
  | _ => (.error .countOfMutation, s)

end EntityQuery.Session
