import EntityQuery.Derive.Expansion

namespace EntityQuery.Derive

/-- A derived call as it stands in generated source: its name and its arguments, or its name and the
calls that make its argument. -/
inductive CallText
  | plain (words : List String)
  | nested (name : String) (calls : List (List String))
deriving DecidableEq, Repr

/-- The constructor of a field type in generated source. -/
def typeText : FieldType → String
  | .string => "FieldType::String"
  | .smallInt => "FieldType::SmallInt"
  | .integer => "FieldType::Integer"
  | .bigInt => "FieldType::BigInt"
  | .boolean => "FieldType::Boolean"
  | .decimal => "FieldType::Decimal"
  | .float => "FieldType::Float"
  | .date => "FieldType::Date"
  | .time => "FieldType::Time"
  | .dateTime => "FieldType::DateTime"
  | .dateTimeTz => "FieldType::DateTimeTz"
  | .guid => "FieldType::Guid"
  | .json => "FieldType::Json"
  | .other => "FieldType::Other"

/-- A call on the description of a field. -/
def FieldCall.words : FieldCall → List String
  | column name => ["column", name]
  | id => ["id"]
  | nullable => ["nullable"]

def FieldChain.words (chain : FieldChain) : List (List String) :=
  ["FieldMeta::new", chain.name, typeText chain.type] :: chain.calls.map FieldCall.words

/-- A call on the description of an association. -/
def AssociationCall.words : AssociationCall → List String
  | targetTable name => ["target_table", name]
  | joinColumn name => ["join_column", name]
  | references name => ["references", name]
  | nullable => ["nullable"]

def AssociationChain.words (chain : AssociationChain) : List (List String) :=
  ["AssociationMeta::new", chain.name, chain.target] :: chain.calls.map AssociationCall.words

/-- A call on the description of an entity. -/
def BuilderCall.text : BuilderCall → CallText
  | table name => .plain ["table", name]
  | entityAlias name => .plain ["alias", name]
  | field chain => .nested "field" chain.words
  | association chain => .nested "association" chain.words

/-- The calls that build the description of an entity, with the ones that begin and end it. -/
def EntityImpl.texts (impl : EntityImpl) : List CallText :=
  .plain ["EntityMetadata::builder", impl.name] :: impl.calls.map BuilderCall.text ++
    [.plain ["build"], .plain ["unwrap_or_else", "closure"]]

end EntityQuery.Derive
