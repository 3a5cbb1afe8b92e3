import EntityQuery.Derive.Item
import EntityQuery.Text.Words

namespace EntityQuery.Derive

/-- A call that changes the description of a field. -/
inductive FieldCall
  | column (name : String)
  | id
  | nullable
deriving DecidableEq, Repr

/-- The calls that describe a field. -/
structure FieldChain where
  name : String
  type : FieldType
  calls : List FieldCall
deriving DecidableEq, Repr

/-- A call that changes the description of an association. -/
inductive AssociationCall
  | targetTable (name : String)
  | joinColumn (name : String)
  | references (name : String)
  | nullable
deriving DecidableEq, Repr

/-- The calls that describe an association. -/
structure AssociationChain where
  name : String
  target : String
  calls : List AssociationCall
deriving DecidableEq, Repr

/-- A call that changes the description of an entity. -/
inductive BuilderCall
  | table (name : String)
  | entityAlias (name : String)
  | field (chain : FieldChain)
  | association (chain : AssociationChain)
deriving DecidableEq, Repr

/-- A field of a record and the column from which it is read. -/
structure FieldRead where
  field : String
  type : List Token
  column : String
deriving DecidableEq, Repr

/-- The derived description of an entity: the calls that build it. -/
structure EntityImpl where
  name : String
  calls : List BuilderCall
deriving DecidableEq, Repr

/-- The derived reading of a record. -/
structure RecordImpl where
  selfType : String
  params : List (List Token)
  predicates : List (List Token)
  reads : List FieldRead
deriving DecidableEq, Repr

/-- A field with what its attributes say. -/
structure ReadField where
  field : Field
  options : FieldOptions
deriving DecidableEq, Repr

namespace ReadField

variable (f : ReadField)

/-- Whether the field's type is an option. -/
def isNullable : Bool :=
  (optionInner? f.field.type).isSome

/-- The column from which the field is read: the given one, or one named for the field. -/
def column : String :=
  match f.options.column?, f.options.association? with
  | some column, _ => column
  | none, some _ => Text.snakeCase f.field.name ++ "_id"
  | none, none => f.field.name

def read : FieldRead :=
  ⟨f.field.name, f.field.type, f.column⟩

/-- The calls that describe an association with a target. -/
def associationChain (target : String) : AssociationChain where
  name := f.field.name
  target := target
  calls :=
    (f.options.targetTable?.map .targetTable).toList ++
      (f.options.column?.map .joinColumn).toList ++
      (f.options.references?.map .references).toList ++ if f.isNullable then [.nullable] else []

/-- The meaning of the field's values: the given one, or the one inferred from its type. -/
def fieldType : Except Fault FieldType :=
  match f.options.fieldType? with
  | none => .ok (inferType f.field.type)
  | some text =>
    match typeOfWord? text with
    | some type => .ok type
    | none => .error (.unknownFieldType text)

/-- The calls that describe a field of a meaning. -/
def fieldChain (type : FieldType) : FieldChain where
  name := f.field.name
  type := type
  calls :=
    (f.options.column?.map .column).toList ++ (if f.options.isId then [.id] else []) ++
      if f.isNullable then [.nullable] else []

/-- The call that adds the field to a description. -/
def builderCall : Except Fault BuilderCall :=
  match f.options.association? with
  | some target => .ok (.association (f.associationChain target))
  | none =>
    if f.options.targetTable?.isSome || f.options.references?.isSome then
      .error .targetWithoutAssociation
    else f.fieldType.map fun type => .field (f.fieldChain type)

end ReadField

def Field.readOptions (field : Field) : Except Fault ReadField :=
  (fieldOptions field.attributes).map fun options => ⟨field, options⟩

namespace Item

variable (item : Item)

/-- The reading of a record with the given fields. -/
def recordImpl (fields : List ReadField) : RecordImpl where
  selfType := item.selfType
  params := (lifetimesFirst item.params).map GenericParam.declared
  predicates := item.predicates
  reads := fields.map ReadField.read

def deriveFromRecord : Except Fault RecordImpl := do
  let fields ← item.namedFields .fromRecord
  return item.recordImpl (← fields.mapM Field.readOptions)

/-- What the attributes of the struct say. A given alias has to be a word. -/
def readStructOptions : Except Fault StructOptions := do
  let options ← structOptions item.attributes
  match options.alias? with
  | none => return options
  | some name => if Text.isAsciiWord name then return options else throw (.badAlias name)

/-- Reads what the attributes of a field say, and makes the call that adds the field. -/
def describe (field : Field) : Except Fault (ReadField × BuilderCall) := do
  let read ← field.readOptions
  return (read, ← read.builderCall)

/-- Derives the description of an entity and the reading of its records. Declarations with
parameters describe no entity. -/
def deriveEntity : Except Fault (EntityImpl × RecordImpl) := do
  if !item.params.isEmpty then throw .genericEntity
  let options ← item.readStructOptions
  let fields ← item.namedFields .entity
  let described ← fields.mapM describe
  let calls : List BuilderCall :=
    (options.table?.map .table).toList ++ (options.alias?.map .entityAlias).toList ++
      described.map Prod.snd
  return (⟨item.name, calls⟩, item.recordImpl (described.map Prod.fst))

end Item

/-- Derives implementations from a declaration: the description of an entity, if that is asked for,
and the reading of a record. -/
def ItemSource.expand (source : ItemSource) (derivation : Derivation) :
    Except Fault (Option EntityImpl × RecordImpl) := do
  let item ← source.read
  match derivation with
  | .entity => return (← item.deriveEntity).map some id
  | .fromRecord => return (none, ← item.deriveFromRecord)

end EntityQuery.Derive
