import EntityQuery.Clause
import EntityQuery.FieldType
import EntityQuery.Value.Kind

namespace EntityQuery

/-- Why a text is not an identifier. -/
inductive IdentFault
  | empty
  | nul
  | unclosedQuote
  | emptyQuoted
  | badCharacter (found : Char) (text : String)
  | emptySegment (text : String)
  | trailingDot
  | missingDot (found : Char)
  | notSingleWord (text : String)
deriving DecidableEq, Repr

def IdentFault.message : IdentFault → String
  | empty => "Identifier cannot be empty"
  | nul => "Identifier cannot contain NUL character"
  | unclosedQuote => "Unclosed quoted identifier"
  | emptyQuoted => "Empty quoted identifier"
  | badCharacter found text => s!"Invalid character '{found}' in identifier '{text}'"
  | emptySegment text => s!"Empty identifier segment in '{text}'"
  | trailingDot => "Trailing '.' in identifier"
  | missingDot found => s!"Expected '.' between identifier parts, got '{found}'"
  | notSingleWord text => s!"Alias '{text}' must be a single unquoted identifier"

/-- Why a configuration is unusable. -/
inductive ConfigFault
  | maxResults
  | perPage
  | paramBase (text : String)
deriving DecidableEq, Repr

def ConfigFault.message : ConfigFault → String
  | maxResults => "default_max_results must be a positive integer"
  | perPage => "default_per_page must be a positive integer"
  | paramBase text => s!"param_prefix '{text}' is not a valid placeholder name"

/-- Why an argument was refused. -/
inductive ArgumentFault
  | config (fault : ConfigFault)
  | maxResults (given : Int)
  | offset (given : Int)
  | page (given : Int)
  | perPage (given : Int)
  | pageOverflow
  | direction (text : String)
  | directionKind (kind : ValueKind)
  | listPattern (method : String)
  | mismatch (entity field : String) (type : FieldType) (kind : ValueKind) (text : String)
  | notAField (name entity : String)
deriving DecidableEq, Repr

def ArgumentFault.message : ArgumentFault → String
  | config fault => fault.message
  | maxResults given => s!"max results must be a positive integer, got {given}"
  | offset given => s!"offset must be a non-negative integer, got {given}"
  | page given => s!"page must be a positive integer, got {given}"
  | perPage given => s!"per-page must be a positive integer, got {given}"
  | pageOverflow => "page offset overflows"
  | direction text => s!"sort direction must be ASC or DESC, got '{text}'"
  | directionKind kind => s!"sort direction must be a string, got {kind.name}"
  | listPattern method => s!"{method} expects a pattern string, got a list"
  | mismatch entity field type kind text =>
    s!"field '{entity}.{field}' expects {type.name}, got {kind.name} '{text}'"
  | notAField name entity => s!"'{name}' is not a field of {entity}"

/-- Why an entity's description is missing or malformed. -/
inductive MetadataFault
  | fieldType (text : String)
  | emptyName
  | badName (entity : String) (fault : IdentFault)
  | duplicate (entity name : String)
  | alreadyRegistered (name : String)
  | unknownEntity (name : String)
  | noIdentifier (entity : String)
deriving DecidableEq, Repr

def MetadataFault.message : MetadataFault → String
  | fieldType text => s!"unknown field type '{text}'"
  | emptyName => "entity name cannot be empty"
  | badName entity fault => s!"entity '{entity}': Validation error: {fault.message}"
  | duplicate entity name => s!"entity '{entity}' declares '{name}' more than once"
  | alreadyRegistered name => s!"entity '{name}' is already registered"
  | unknownEntity name => s!"unknown entity '{name}'"
  | noIdentifier entity => s!"entity '{entity}' declares no identifier field"

/-- Why a session cannot be rendered or run. -/
inductive ValidationFault
  | ident (fault : IdentFault)
  | unboundParameter (name : String)
  | updateWithoutSet
  | countOfMutation
  | executeOfSelect
  | unfiltered (kind : StatementKind) (table : String)
  | joinWithoutCondition (join entity : String)
deriving DecidableEq, Repr

def ValidationFault.message : ValidationFault → String
  | ident fault => fault.message
  | unboundParameter name => s!"no value bound for parameter ':{name}'"
  | updateWithoutSet => "UPDATE requires at least one SET"
  | countOfMutation => "COUNT requires a SELECT session"
  | executeOfSelect =>
    "execute() requires an UPDATE or DELETE session; use a fetch method for SELECT"
  | unfiltered kind table => s!"{kind.name} without WHERE would affect every row of {table}"
  | joinWithoutCondition join entity =>
    s!"join '{join}' is not an association of '{entity}' and needs a condition"

/-- Why a result could not be read. -/
inductive DecodeFault
  | absent
  | conversion (kind : ValueKind) (target : String)
  | countKind (kind : ValueKind)
  | emptyCount
  | emptyScalar
  | malformed (index : Nat)
deriving DecidableEq, Repr

def DecodeFault.message : DecodeFault → String
  | absent => "column not present in result"
  | conversion kind target => s!"cannot convert {kind.name} to {target}"
  | countKind kind => s!"expected an integer, got {kind.name}"
  | emptyCount => "count query returned no columns"
  | emptyScalar => "scalar query returned no columns"
  | malformed index => s!"error deserializing column {index}"

/-- Why a value cannot be sent as a parameter of a type. -/
inductive BindFault
  | tooLarge
  | tooSmall
  | notDecimal
  | refused (kind : ValueKind) (type : String)
  | unreadable (text type : String)
  | listInScalar (type : String)
  | tooLong
deriving DecidableEq, Repr

def BindFault.message : BindFault → String
  | tooLarge => "number too large to fit in target type"
  | tooSmall => "number too small to fit in target type"
  | notDecimal => "Error while converting to Decimal"
  | refused kind type => s!"cannot bind {kind.name} value as {type}"
  | unreadable text type => s!"cannot bind '{text}' as {type}"
  | listInScalar type => s!"list value cannot be bound to scalar type {type}"
  | tooLong => "value too large to transmit"

/-- Why the exchange with the database failed. -/
inductive ExchangeFault
  | refused
  | parameterCount (expected given : Nat)
  | parameter (index : Nat)
deriving DecidableEq, Repr

def ExchangeFault.message : ExchangeFault → String
  | refused => "db error"
  | parameterCount expected given => s!"expected {expected} parameters but got {given}"
  | parameter index => s!"error serializing parameter {index}"

/-- A failure between a declaration and a result, by cause. The wording of each cause stands in its
`message` function, and nothing else writes error text. -/
inductive QueryError
  | argument (fault : ArgumentFault)
  | unrecognizedMethod (method : String)
  | missingArgument (method : String)
  | unrecognizedField (entity field method : String)
  | nonUnique (rows : Nat)
  | noResult
  | metadata (fault : MetadataFault)
  | exchange (fault : ExchangeFault)
  | decode (column : String) (fault : DecodeFault)
  | validation (fault : ValidationFault)
  | backend (message : String)
deriving DecidableEq, Repr

namespace QueryError

/-- The full text of an error. -/
def message : QueryError → String
  | argument fault => s!"Invalid argument: {fault.message}"
  | unrecognizedMethod method => s!"Unrecognized method '{method}'"
  | missingArgument method => s!"Missing argument for method '{method}'"
  | unrecognizedField entity field method =>
    s!"Unrecognized field '{field}' on entity '{entity}' (method '{method}')"
  | nonUnique rows => s!"Non-unique result: expected at most one row, got {rows}"
  | noResult => "No result: expected exactly one row, got none"
  | metadata fault => s!"Metadata error: {fault.message}"
  | exchange fault => s!"Query error: {fault.message}"
  | decode column fault => s!"Decode error on column '{column}': {fault.message}"
  | validation fault => s!"Validation error: {fault.message}"
  | backend message => message

/-- Whether the error was raised while reading a dynamic call's name. -/
def isDynamicCall : QueryError → Bool
  | unrecognizedMethod _ | missingArgument _ | unrecognizedField _ _ _ => true
  | _ => false

end QueryError

end EntityQuery
