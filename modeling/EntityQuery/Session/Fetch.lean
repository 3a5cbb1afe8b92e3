import EntityQuery.Record
import EntityQuery.Session.Build

namespace EntityQuery

/-- The shape in which rows are asked for. -/
inductive HydrationMode
  | object
  | array
  | scalar
  | simpleObject
  | singleScalar
deriving DecidableEq, Repr

/-- The name of a shape. -/
def HydrationMode.name : HydrationMode → String
  | object => "object"
  | array => "array"
  | scalar => "scalar"
  | simpleObject => "simple_object"
  | singleScalar => "single_scalar"

/-- What runs statements: one function for rows and one for the number of changed rows. -/
structure Backend where
  fetch : BuiltQuery → HydrationMode → Except QueryError (List Record)
  execute : BuiltQuery → Except QueryError Nat

/-- A statement as it was handed to a backend, with the shape if rows were asked for. -/
structure Statement where
  query : BuiltQuery
  mode? : Option HydrationMode
deriving Repr

/-- The result of running a session and the statements that were handed over. A session is rendered
once and handed to a backend once. -/
structure Outcome (α : Type) where
  sent : List Statement
  result : Except QueryError α

namespace Outcome

variable {α β : Type}

/-- A failure before any statement was handed over. -/
def refuse (e : QueryError) : Outcome α :=
  ⟨[], .error e⟩

/-- The outcome with its result processed further. -/
def andThen (o : Outcome α) (f : α → Except QueryError β) : Outcome β :=
  ⟨o.sent, o.result.bind f⟩

end Outcome

/-- A list of at most one row. -/
def atMostOne (records : List Record) : Except QueryError (Option Record) :=
  match records with
  | [] => .ok none
  | [record] => .ok (some record)
  | _ => .error (.nonUnique records.length)

/-- The result that has to be there. -/
def required {α : Type} : Option α → Except QueryError α
  | some a => .ok a
  | none => .error .noResult

namespace Session

variable {α : Type} (s : Session) (backend : Backend)

/-- Hands a statement over and asks for rows. -/
def runFetch (query : Except ValidationFault BuiltQuery) (mode : HydrationMode) :
    Outcome (List Record) :=
  match query with
  | .error fault => .refuse (.validation fault)
  | .ok query => ⟨[⟨query, some mode⟩], backend.fetch query mode⟩

/-- All rows of the session. -/
def fetchRecords (mode : HydrationMode) : Outcome (List Record) :=
  runFetch backend s.build mode

/-- The first row of the session, if there is one. -/
def fetchOneRecord (mode : HydrationMode) : Outcome (Option Record) :=
  match s.limit 1 (some 0) with
  | .error fault => .refuse (.argument fault)
  | .ok s => (s.fetchRecords backend mode).andThen atMostOne

/-- The first row of the session as an entity, if there is one. -/
def fetchOne (read : Record → Except QueryError α) : Outcome (Option α) :=
  (s.fetchOneRecord backend .object).andThen fun record? =>
    match record? with
    | none => .ok none
    | some record => (read record).map some

/-- The first row of the session as an entity. -/
def fetchSingle (read : Record → Except QueryError α) : Outcome α :=
  (s.fetchOneRecord backend .object).andThen fun record? => (required record?).bind read

/-- The first column of the first row. -/
def fetchSingleScalar : Outcome Value :=
  (s.fetchOneRecord backend .singleScalar).andThen fun record? =>
    (required record?).bind fun record =>
      match record.first? with
      | some value => .ok value
      | none => .error (.decode "?column?" .emptyScalar)

/-- All rows as entities. -/
def fetchAll (read : Record → Except QueryError α) : Outcome (List α) :=
  (s.fetchRecords backend .object).andThen fun records => records.mapM read

/-- All rows as documents. -/
def fetchAllArray : Outcome (List Json) :=
  (s.fetchRecords backend .array).andThen fun records => .ok (records.map Record.toJson)

/-- All rows as plain values. -/
def fetchAllScalar : Outcome (List Record) :=
  s.fetchRecords backend .scalar

/-- All rows as entities without their associations. -/
def fetchAllSimple (read : Record → Except QueryError α) : Outcome (List α) :=
  (s.fetchRecords backend .simpleObject).andThen fun records => records.mapM read

/-- The number of a counting statement's answer. -/
def countOf (record : Record) : Except QueryError Int64 :=
  match record.first? with
  | some (.int n) => .ok n
  | some other => .error (.decode "count" (.countKind other.kind))
  | none => .error (.decode "count" .emptyCount)

/-- The number of rows, without regard to ordering and window. -/
def count : Outcome Int64 :=
  (runFetch backend s.buildCount .singleScalar).andThen fun records =>
    (atMostOne records).bind fun record? => (required record?).bind countOf

/-- Whether the session has no condition on rows. -/
def isUnfiltered : Bool :=
  match s.where? with
  | none => true
  | some predicate => predicate.isEmpty

/-- Runs an update or a deletion and gives the number of changed rows. Without a condition it is
refused unless the configuration allows that. -/
def execute : Outcome Nat :=
  match s.kind with
  | .select => .refuse (.validation .executeOfSelect)
  | _ =>
    if s.isUnfiltered && !s.config.allowUnfiltered then
      .refuse (.validation (.unfiltered s.kind s.entity.table))
    else
      match s.build with
      | .error fault => .refuse (.validation fault)
      | .ok query => ⟨[⟨query, none⟩], backend.execute query⟩

end Session

end EntityQuery
