import EntityQuery.Alias
import EntityQuery.Call.Name
import EntityQuery.Coercion
import EntityQuery.Expr
import EntityQuery.Parameters

namespace EntityQuery

/-- A join of an association of the entity, or of a table with a condition. -/
structure Join where
  kind : JoinKind
  target : String
  tableAlias : String
  condition? : Option String
deriving DecidableEq, Repr

/-- An entry of an ordering. -/
structure SortEntry where
  text : String
  direction? : Option Direction
deriving DecidableEq, Repr

/-- A column that an update sets, and the name of the parameter it is set to. -/
structure Assignment where
  target : String
  param : String
deriving DecidableEq, Repr

/-- What was asked of one entity so far. Arguments that name a declared field or association are
qualified by the session's alias, and all others are taken as they are. -/
structure Session where
  config : Config := {}
  resolver : AliasResolver
  kind : StatementKind := .select
  select : List String := []
  distinct : Bool := false
  joins : List Join := []
  where? : Option Expr := none
  having? : Option Expr := none
  groupBy : List String := []
  orderBy : List SortEntry := []
  set : List Assignment := []
  params : ParamTable := {}
  maxResults? : Option Nat := none
  firstResult? : Option Nat := none

namespace Session

variable (s : Session)

/-- A session in which nothing was asked for yet. -/
def new (entity : EntityMeta) : Session :=
  { resolver := { entity } }

/-- The description of the session's entity. -/
def entity : EntityMeta :=
  s.resolver.entity

def entityAlias : String :=
  s.resolver.entityAlias

/-- The session after its alias was needed. -/
def fixAlias : Session :=
  { s with resolver := s.resolver.fix }

def qualify (name : String) : String :=
  s.resolver.qualify name

/-- The session after a name was qualified. -/
def afterQualify (name : String) : Session :=
  { s with resolver := s.resolver.afterQualify name }

def afterQualifyAll (names : List String) : Session :=
  names.foldl afterQualify s

/-! ### Configuration and selection -/

/-- Replaces the configuration by a valid one. -/
def withConfig (config : Config) : Except ConfigFault Session :=
  config.validate.map fun _ => { s with config }

/-- Selects the entity under its alias. An override counts while the alias is not fixed. -/
def selectFromEntity (override? : Option String) : Session :=
  let resolver :=
    match override? with
    | some name => s.resolver.withAlias name
    | none => s.resolver
  { s with resolver := resolver.fix, kind := .select, select := [resolver.entityAlias] }

/-- Selects from the entity and keeps what is selected already. -/
def fromEntity : Session :=
  if s.select.isEmpty then { s.fixAlias with kind := .select, select := [s.entityAlias] }
  else { s with kind := .select }

def selectItems (names : List String) : Session :=
  { s.afterQualifyAll names with kind := .select, select := names.map s.qualify }

def addSelect (names : List String) : Session :=
  { s.afterQualifyAll names with select := s.select ++ names.map s.qualify }

/-- Chooses whether equal rows are merged. -/
def setDistinct (distinct : Bool) : Session :=
  { s with distinct }

def addJoin (kind : JoinKind) (target tableAlias : String) (condition? : Option String) : Session :=
  { s.afterQualify target with
    joins := s.joins ++ [{ kind, target := s.qualify target, tableAlias, condition? }] }

/-! ### Conditions -/

/-- A condition that is attached to an earlier one, if there is one. -/
def combine (existing? : Option Expr) (conjunction : Call.Conjunction) (predicate : Expr) : Expr :=
  match existing?, conjunction with
  | none, _ => predicate
  | some existing, .or => existing.orElse predicate
  | some existing, _ => existing.andThen predicate

/-- Replaces the condition on rows. -/
def setWhere (predicate : Expr) : Session :=
  { s with where? := some predicate }

/-- Attaches a condition on rows. -/
def attach (conjunction : Call.Conjunction) (predicate : Expr) : Session :=
  { s with where? := some (combine s.where? conjunction predicate) }

/-- Replaces the condition on groups. -/
def setHaving (predicate : Expr) : Session :=
  { s with having? := some predicate }

/-- Attaches a condition on groups. -/
def attachHaving (conjunction : Call.Conjunction) (predicate : Expr) : Session :=
  { s with having? := some (combine s.having? conjunction predicate) }

/-! ### Ordering and grouping -/

/-- Adds an entry to the ordering, or puts it in the place of all earlier ones. -/
def pushOrder (replace : Bool) (text : String) (direction? : Option Direction) : Session :=
  let entry : SortEntry := { text := s.qualify text, direction? }
  { s.afterQualify text with orderBy := (if replace then [] else s.orderBy) ++ [entry] }

/-- Adds an entry to the grouping, or puts it in the place of all earlier ones. -/
def pushGroup (replace : Bool) (name : String) : Session :=
  { s.afterQualify name with
    groupBy := (if replace then [] else s.groupBy) ++ [s.qualify name] }

def setGroupBy (names : List String) : Session :=
  names.foldl (fun s name => s.pushGroup false name) { s with groupBy := [] }

def addGroupBy (names : List String) : Session :=
  names.foldl (fun s name => s.pushGroup false name) s

/-! ### Changes of rows -/

def toUpdate : Session :=
  { s with kind := .update }

def toDelete : Session :=
  { s with kind := .delete }

/-- Sets a field in an update, and turns the session into one. -/
def assign (field : String) (value : Value) : Session :=
  let target := s.qualify field
  let type? := s.entity.typeOf? (s.resolver.strip target)
  let (param, params) := s.params.bind s.config.paramBase value type?
  { s.fixAlias with kind := .update, set := s.set ++ [{ target, param }], params }

/-! ### Window -/

/-- Limits the rows to a positive number. Without an offset the earlier one is kept. -/
def limit (max : Int64) (offset? : Option Int64) : Except ArgumentFault Session :=
  if max < 1 then .error (.maxResults max.toInt)
  else
    match offset? with
    | none => .ok { s with maxResults? := some max.toInt.toNat }
    | some offset =>
      if offset < 0 then .error (.offset offset.toInt)
      else
        .ok
          { s with
            maxResults? := some max.toInt.toNat
            firstResult? := some offset.toInt.toNat }

/-- Limits the rows to those of a page. -/
def paginate (page perPage : Int64) : Except ArgumentFault Session :=
  if page < 1 then .error (.page page.toInt)
  else if perPage < 1 then .error (.perPage perPage.toInt)
  else
    match Numeric.int64? ((page.toInt - 1) * perPage.toInt) with
    | none => .error .pageOverflow
    | some offset => s.limit perPage (some offset)

/-- Limits the rows to those of a page of the configured size. -/
def paginateDefault (page : Int64) : Except ArgumentFault Session :=
  s.paginate page s.config.perPage

/-! ### Parameters -/

def setParameter (name : String) (value : Value) (type? : Option FieldType) : Session :=
  { s with params := s.params.set name value type? }

def appendParameters (bindings : List (String × Binding)) : Session :=
  { s with params := s.params.append bindings }

/-- Binds a value to a fresh name of a base, and gives the placeholder for it. -/
def paramNamed (base : String) (value : Value) (type? : Option FieldType) : String × Session :=
  let (name, params) := s.params.bind base value type?
  (":" ++ name, { s with params })

/-- Binds a value to a fresh name of the configured base. -/
def param (value : Value) (type? : Option FieldType) : String × Session :=
  s.paramNamed s.config.paramBase value type?

/-- A value coerced to the declared type of a field. -/
def coerce (field : String) (value : Value) (pattern : Option String) (skipTemporal : Bool) :
    Except ArgumentFault Value :=
  s.entity.coerce s.config field value pattern skipTemporal

end Session

end EntityQuery
