import EntityQuery.Derive.Attribute
import EntityQuery.Derive.Generics

namespace EntityQuery.Derive

/-- What kind of type is declared, and how its fields are told apart. -/
inductive Body
  | named
  | tuple
  | unit
  | enum
  | union
deriving DecidableEq, Repr

/-- The word for a kind of declaration. -/
def Body.name : Body → String
  | named => "named"
  | tuple => "tuple"
  | unit => "unit"
  | enum => "enum"
  | union => "union"

/-- The kind of declaration that a word names. -/
def Body.ofName? (s : String) : Option Body :=
  [named, tuple, unit, enum, union].find? fun body => body.name == s

/-- A field as its author writes it. -/
structure FieldSource where
  name : String
  type : String
  attributes : List String := []
deriving DecidableEq, Repr

/-- A declaration as its author writes it. -/
structure ItemSource where
  name : String
  body : Body := .named
  generics : String := ""
  predicates : String := ""
  attributes : List String := []
  fields : List FieldSource := []
deriving DecidableEq, Repr

/-- A field of a declaration. -/
structure Field where
  name : String
  type : List Token
  attributes : List (List Token)
deriving DecidableEq, Repr

/-- A declaration of a record type. -/
structure Item where
  name : String
  body : Body
  params : List GenericParam
  predicates : List (List Token)
  attributes : List (List Token)
  fields : List Field
deriving DecidableEq, Repr

/-- The tokens of a piece of source text. -/
def readSource (s : String) : Except Fault (List Token) :=
  match tokens? s with
  | some tokens => .ok tokens
  | none => .error .source

def FieldSource.read (source : FieldSource) : Except Fault Field := do
  return {
    name := source.name
    type := argumentsInOrder (← readSource source.type)
    attributes := ← source.attributes.mapM readSource }

/-- Refuses keywords as names. -/
def checkName (name : String) : Except Fault Unit :=
  if keywords.contains name then .error (.keyword name) else .ok ()

/-- The names that a declaration gives: its own, and those of its fields where they have any. -/
def Item.givenNames (item : Item) : List String :=
  match item.body with
  | .named | .union => item.name :: item.fields.map Field.name
  | .tuple | .unit | .enum => [item.name]

/-- Reads a declaration. The whole source is taken apart before the names are checked. -/
def ItemSource.read (source : ItemSource) : Except Fault Item := do
  let item := {
    name := source.name
    body := source.body
    params := genericParams (← readSource source.generics)
    predicates := wherePredicates (← readSource source.predicates)
    attributes := ← source.attributes.mapM readSource
    fields := ← source.fields.mapM FieldSource.read }
  item.givenNames.forM checkName
  return item

/-- The fields of a declaration, which have to be named ones of a struct. -/
def Item.namedFields (item : Item) (derivation : Derivation) : Except Fault (List Field) :=
  match item.body with
  | .named => .ok item.fields
  | .tuple | .unit => .error (.namelessFields derivation)
  | .enum | .union => .error (.notStruct derivation)

/-- The type that a declaration makes, with its arguments. -/
def Item.selfType (item : Item) : String :=
  item.name ++ argumentsText item.params

end EntityQuery.Derive
