import EntityQuery.Session.Fetch

namespace EntityQuery

/-- The sessions of one entity with a common configuration. -/
structure Repository where
  entity : EntityMeta
  config : Config := {}
  maxResults : Int64 := config.maxResults

/-- One page over a session. -/
structure Paginator where
  session : Session
  page : Int64
  perPage : Int64
  one_le_page : 1 ≤ page
  one_le_perPage : 1 ≤ perPage

namespace Paginator

/-- A page over a session. Pages and page sizes are positive. -/
def of (session : Session) (page perPage : Int64) : Except ArgumentFault Paginator :=
  if hpage : page < 1 then .error (.page page.toInt)
  else if hperPage : perPage < 1 then .error (.perPage perPage.toInt)
  else
    .ok
      { session, page, perPage
        one_le_page := Int64.not_lt.1 hpage
        one_le_perPage := Int64.not_lt.1 hperPage }

variable {α : Type} (p : Paginator) (backend : Backend)

/-- The number of all rows of the session. -/
def count : Outcome Int64 :=
  p.session.count backend

/-- The rows of the page as entities. -/
def items (read : Record → Except QueryError α) : Outcome (List α) :=
  match p.session.paginate p.page p.perPage with
  | .error fault => .refuse (.argument fault)
  | .ok window => window.fetchAll backend read

/-- The number of pages that a number of rows fills: the rows and those of one page less one row,
divided by the rows of one page. Each step is arithmetic of eight bytes, and there is no number if
one of them aborts the computation. -/
def pagesOf? (overflow : Numeric.Overflow) (total perPage : Int64) : Option Int64 := do
  let sum ← overflow.result? (total.toInt + perPage.toInt)
  let last ← overflow.result? (sum.toInt - 1)
  overflow.result? (last.toInt.tdiv perPage.toInt)

/-- The number of pages that the rows of the session fill. It is missing when the rows were counted
and the computation of their pages is aborted. -/
def totalPages (overflow : Numeric.Overflow) : Outcome (Option Int64) :=
  (p.count backend).andThen fun total => .ok (pagesOf? overflow total p.perPage)

end Paginator

namespace Repository

/-- A repository with a configuration that is checked first. -/
def withConfig (entity : EntityMeta) (config : Config) : Except ConfigFault Repository :=
  config.validate.map fun _ => { entity, config }

variable (repo : Repository) (backend : Backend)

/-- Changes the page size that counts when none is given. -/
def setMaxResults (maxResults : Int64) : Except ArgumentFault Repository :=
  if maxResults < 1 then .error (.maxResults maxResults.toInt) else .ok { repo with maxResults }

/-- The alias that sessions get when none is given. -/
def entityAlias : String :=
  AliasResolver.entityAlias { entity := repo.entity }

/-- A session that selects the entity. -/
def session (alias? : Option String) : Session :=
  { Session.new repo.entity with config := repo.config }.selectFromEntity alias?

/-- The identifiers of all rows. -/
def findAllIdentifiers : Outcome (List Record) :=
  match repo.entity.identifier with
  | [] => .refuse (.metadata (.noIdentifier repo.entity.name))
  | names =>
    let s := repo.session none
    (s.selectItems (names.map s.qualify)).fetchAllScalar backend

/-- The functions that reduce a column to one value. -/
inductive Aggregate
  | min
  | max
  | sum
  | avg
deriving DecidableEq, Repr

/-- The name of a function in statements. -/
def Aggregate.keyword : Aggregate → String
  | min => "MIN"
  | max => "MAX"
  | sum => "SUM"
  | avg => "AVG"

/-- The item that applies a function to a field, under a name made of both. -/
def aggregateItem (function : Aggregate) (column qualified : String) : String :=
  function.keyword ++ "(" ++ qualified ++ ") AS " ++ Text.asciiLower function.keyword ++ "_" ++
    column

/-- The value of a function over a field of all rows. -/
def aggregate (function : Aggregate) (column : String) : Outcome Value :=
  if repo.entity.hasField column then
    let s := repo.session none
    (s.selectItems [aggregateItem function column (s.qualify column)]).fetchSingleScalar backend
  else .refuse (.argument (.notAField column repo.entity.shortName))

/-- A page over all rows of the entity. -/
def paginate (page : Int64) (perPage? : Option Int64) : Except ArgumentFault Paginator :=
  Paginator.of (repo.session none) page (perPage?.getD repo.maxResults)

end Repository

end EntityQuery
