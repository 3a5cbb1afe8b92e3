import EntityQuery.Derive.Expansion
import EntityQuery.Metadata
import EntityQuery.Record

namespace EntityQuery.Derive

/-- The description of a field after one more call. -/
def FieldCall.apply (f : FieldMeta) : FieldCall → FieldMeta
  | column name => { f with column := name }
  | id => { f with isId := true }
  | nullable => { f with nullable := true }

/-- The description of a field that calls build. -/
def FieldChain.eval (chain : FieldChain) : FieldMeta :=
  chain.calls.foldl FieldCall.apply { name := chain.name, type := chain.type }

/-- The description of an association after one more call. -/
def AssociationCall.apply (a : AssociationMeta) : AssociationCall → AssociationMeta
  | targetTable name => { a with targetTable := name }
  | joinColumn name => { a with joinColumn := name }
  | references name => { a with referencedColumn := name }
  | nullable => { a with nullable := true }

/-- The description of an association that calls build. -/
def AssociationChain.eval (chain : AssociationChain) : AssociationMeta :=
  chain.calls.foldl AssociationCall.apply { name := chain.name, targetEntity := chain.target }

/-- The declaration of an entity after one more call. -/
def BuilderCall.apply (decl : EntityDecl) : BuilderCall → EntityDecl
  | table name => { decl with table? := some name }
  | entityAlias name => { decl with alias? := some name }
  | field chain => { decl with fields := decl.fields ++ [chain.eval] }
  | association chain => { decl with associations := decl.associations ++ [chain.eval] }

/-- The declaration of an entity that calls build. -/
def EntityImpl.decl (impl : EntityImpl) : EntityDecl :=
  impl.calls.foldl BuilderCall.apply { name := impl.name }

/-- The description of an entity that calls build, if its declaration passes the checks. -/
def EntityImpl.eval (impl : EntityImpl) : Except MetadataFault EntityMeta :=
  impl.decl.build

/-- The types of record fields with the forms in which their cells are read. -/
def cellForms : List (String × CellForm) :=
  [("Value", .value), ("bool", .bool), ("i16", .int16), ("i32", .int32), ("i64", .int64),
    ("f32", .float32), ("f64", .float64), ("Decimal", .decimal), ("String", .string),
    ("NaiveDate", .date), ("NaiveTime", .time), ("NaiveDateTime", .dateTime),
    ("DateTime<Utc>", .instant), ("Uuid", .uuid), ("serde_json::Value", .json)]

/-- How a field of a type is read from a cell, if the type is known. -/
def cellType? (type : List Token) : Option CellType :=
  match optionInner? type with
  | some inner => (cellForms.lookup (compact inner)).map fun form => ⟨form, true⟩
  | none => (cellForms.lookup (compact type)).map fun form => ⟨form, false⟩

/-- How the fields of a record are read: each with its column and the type of its cell. -/
abbrev RecordReader := List (String × String × CellType)

/-- The reader of a record whose field types are all known. -/
def RecordImpl.reader? (impl : RecordImpl) : Option RecordReader :=
  impl.reads.mapM fun read => (cellType? read.type).map fun type => (read.field, read.column, type)

/-- Reads the fields of a record from a row, in the order of the declaration. The first field that
cannot be read is the fault. -/
def readFields (reader : RecordReader) (row : Record) :
    Except QueryError (List (String × Option Value)) :=
  reader.mapM fun (field, column, type) => (row.tryGet column type).map fun v => (field, v)

end EntityQuery.Derive
