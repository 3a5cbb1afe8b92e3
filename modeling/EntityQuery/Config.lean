import EntityQuery.Error
import EntityQuery.Json
import EntityQuery.Numeric.Integer

namespace EntityQuery

/-- Defaults and switches that sessions and repositories share. -/
structure Config where
  /-- The page size of repositories when none is given. -/
  maxResults : Int64 := 50
  /-- The page size of a session that is paginated without one. -/
  perPage : Int64 := 10
  /-- The base of generated placeholder names. -/
  paramBase : String := "p"
  datePattern : String := "%Y-%m-%d"
  timePattern : String := "%H:%M:%S"
  dateTimePattern : String := "%Y-%m-%d %H:%M:%S"
  /-- Whether the arguments of dynamic calls are coerced to the declared type of their field. -/
  coerceArguments : Bool := true
  /-- Whether updates and deletions may run without a condition. -/
  allowUnfiltered : Bool := false
deriving DecidableEq, Repr

namespace Config

/-- Checks the values that would otherwise fail when a query is made. Placeholder names begin with
an ASCII word. -/
def validate (config : Config) : Except ConfigFault Unit :=
  if config.maxResults < 1 then .error .maxResults
  else if config.perPage < 1 then .error .perPage
  else if !Text.isAsciiWord config.paramBase then .error (.paramBase config.paramBase)
  else .ok ()

/-- The names of the settings in a document, in their order. -/
def keys : List String :=
  ["default_max_results", "default_per_page", "param_prefix", "date_format", "time_format",
    "datetime_format", "coerce_arguments", "allow_unfiltered_mutations"]

/-- An integer setting. -/
def intOf? : Json → Option Int64
  | .number (.int n) => Numeric.int64? n
  | _ => none

def textOf? : Json → Option String
  | .string s => some s
  | _ => none

def switchOf? : Json → Option Bool
  | .bool b => some b
  | _ => none

/-- A setting that may be missing, in which case its default counts. -/
def setting? {α : Type} (read : Json → Option α) (fallback : α) : Option Json → Option α
  | none => some fallback
  | some doc => read doc

/-- Reads a configuration from the documents of its settings. -/
def ofSettings? (find : Nat → Option Json) : Option Config := do
  let base : Config := {}
  return {
    maxResults := ← setting? intOf? base.maxResults (find 0)
    perPage := ← setting? intOf? base.perPage (find 1)
    paramBase := ← setting? textOf? base.paramBase (find 2)
    datePattern := ← setting? textOf? base.datePattern (find 3)
    timePattern := ← setting? textOf? base.timePattern (find 4)
    dateTimePattern := ← setting? textOf? base.dateTimePattern (find 5)
    coerceArguments := ← setting? switchOf? base.coerceArguments (find 6)
    allowUnfiltered := ← setting? switchOf? base.allowUnfiltered (find 7) }

/-- Reads a configuration: an object with any of the settings, or an array of the first ones. -/
def ofJson? (doc : Json) : Option Config :=
  match doc with
  | .object members => ofSettings? fun i => (keys[i]?).bind fun key => members.lookup key
  | .array items => if keys.length < items.length then none else ofSettings? fun i => items[i]?
  | _ => none

end Config

end EntityQuery
