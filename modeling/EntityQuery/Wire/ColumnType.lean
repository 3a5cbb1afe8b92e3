namespace EntityQuery.Wire

/-- A type whose values can be written and read. -/
inductive NativeType
  | bool
  | int2
  | int4
  | int8
  | float4
  | float8
  | numeric
  | text
  | varchar
  | bpchar
  | name
  | unknown
  | date
  | time
  | timestamp
  | timestamptz
  | uuid
  | json
  | jsonb
deriving DecidableEq, Repr

namespace NativeType

/-- The types with their names and their numbers in the catalogue. -/
def catalogue : List (String × Nat × NativeType) :=
  [("bool", 16, bool), ("name", 19, name), ("int8", 20, int8), ("int2", 21, int2),
    ("int4", 23, int4), ("text", 25, text), ("json", 114, json), ("float4", 700, float4),
    ("float8", 701, float8), ("unknown", 705, unknown), ("bpchar", 1042, bpchar),
    ("varchar", 1043, varchar), ("date", 1082, date), ("time", 1083, time),
    ("timestamp", 1114, timestamp), ("timestamptz", 1184, timestamptz), ("numeric", 1700, numeric),
    ("uuid", 2950, uuid), ("jsonb", 3802, jsonb)]

def typeName : NativeType → String
  | bool => "bool"
  | int2 => "int2"
  | int4 => "int4"
  | int8 => "int8"
  | float4 => "float4"
  | float8 => "float8"
  | numeric => "numeric"
  | text => "text"
  | varchar => "varchar"
  | bpchar => "bpchar"
  | name => "name"
  | unknown => "unknown"
  | date => "date"
  | time => "time"
  | timestamp => "timestamp"
  | timestamptz => "timestamptz"
  | uuid => "uuid"
  | json => "json"
  | jsonb => "jsonb"

/-- The number of a type in the catalogue. -/
def oid (t : NativeType) : Nat :=
  ((catalogue.lookup t.typeName).map Prod.fst).getD 0

/-- Whether the values of a type are plain texts. -/
def isText : NativeType → Bool
  | text | varchar | bpchar | name | unknown => true
  | _ => false

/-- How many bytes the values of a type have, if all have equally many. -/
def width? : NativeType → Option Nat
  | bool => some 1
  | int2 => some 2
  | int4 | float4 | date => some 4
  | int8 | float8 | time | timestamp | timestamptz => some 8
  | uuid => some 16
  | _ => none

end NativeType

/-- A type that the database gives to parameters and columns. Types whose values have a binary form
here are told apart; the other ones are known by their name and number only. -/
inductive ColumnType
  | native (type : NativeType)
  /-- A simple type that is known by its schema, its name and its number. -/
  | named (schema name : String) (oid : Nat)
  /-- Lists of values of one type, with indices from one. -/
  | array (element : ColumnType)
  /-- Lists of values of one type, with indices from zero. -/
  | vector (element : ColumnType) (oid : Nat)
deriving DecidableEq, Repr

namespace ColumnType

/-- The schema of the types that the database brings along. -/
def systemSchema : String := "pg_catalog"

/-- The numbers of the other types that the database brings along. Arrays of them carry the
number. -/
def otherTypes : List (String × Nat) :=
  [("bytea", 17), ("char", 18), ("regproc", 24), ("oid", 26), ("tid", 27), ("xid", 28),
    ("cid", 29), ("xml", 142), ("point", 600), ("lseg", 601), ("path", 602), ("box", 603),
    ("polygon", 604), ("line", 628), ("cidr", 650), ("circle", 718), ("macaddr8", 774),
    ("money", 790), ("macaddr", 829), ("inet", 869), ("aclitem", 1033), ("interval", 1186),
    ("timetz", 1266), ("bit", 1560), ("varbit", 1562), ("refcursor", 1790),
    ("regprocedure", 2202), ("regoper", 2203), ("regoperator", 2204), ("regclass", 2205),
    ("regtype", 2206), ("cstring", 2275), ("txid_snapshot", 2970), ("pg_lsn", 3220),
    ("tsvector", 3614), ("tsquery", 3615), ("gtsvector", 3642), ("regconfig", 3734),
    ("regdictionary", 3769), ("int4range", 3904), ("numrange", 3906), ("tsrange", 3908),
    ("tstzrange", 3910), ("daterange", 3912), ("int8range", 3926), ("jsonpath", 4072),
    ("regnamespace", 4089), ("regrole", 4096), ("regcollation", 4191), ("int4multirange", 4451),
    ("nummultirange", 4532), ("tsmultirange", 4533), ("tstzmultirange", 4534),
    ("datemultirange", 4535), ("int8multirange", 4536), ("pg_snapshot", 5038), ("xid8", 5069)]

/-- The type of a name in the catalogue that is neither an array nor a vector. -/
def simple? (name : String) : Option ColumnType :=
  match NativeType.catalogue.lookup name with
  | some (_, type) => some (native type)
  | none => (otherTypes.lookup name).map (named systemSchema name)

/-- The lists with indices from zero. -/
def vectors : List (String × ColumnType) :=
  [("int2vector", vector (native .int2) 22),
    ("oidvector", vector (named systemSchema "oid" 26) 30)]

/-- The type of a name in the catalogue. An underscore in front makes an array of a type. -/
def ofName (name : String) : ColumnType :=
  let scalar? := fun word => (simple? word).or (vectors.lookup word)
  match scalar? name, name.toList with
  | some type, _ => type
  | none, '_' :: element => ((scalar? (String.ofList element)).map array).getD unlisted
  | none, _ => unlisted
where
  /-- A type of the database that the tables do not list. -/
  unlisted : ColumnType := named systemSchema name 0

/-- The number of a type. Arrays are never elements, so theirs is never asked for. -/
def oid : ColumnType → Nat
  | native type => type.oid
  | named _ _ oid => oid
  | array _ => 0
  | vector _ oid => oid

/-- The name of a type without its schema. -/
def name : ColumnType → String
  | native type => type.typeName
  | named _ name _ => name
  | array element => "_" ++ name element
  | vector element _ => name element ++ "vector"

/-- The text of a type in messages: its name, qualified unless every session finds it. -/
def toText : ColumnType → String
  | named schema name _ =>
    if schema = "public" ∨ schema = systemSchema then name else schema ++ "." ++ name
  | type => type.name

/-- The text types that extensions bring along, whatever their schema. -/
def textExtensions : List String :=
  ["citext", "ltree", "lquery", "ltxtquery"]

/-- The extensions whose texts stand behind the number of their format. -/
def versionedExtensions : List String :=
  ["ltree", "lquery", "ltxtquery"]

/-- Whether the values of a type are texts. -/
def isText : ColumnType → Bool
  | native type => type.isText
  | named _ name _ => textExtensions.contains name
  | _ => false

/-- Whether the texts of a type stand behind a number. -/
def isVersioned : ColumnType → Bool
  | named _ name _ => versionedExtensions.contains name
  | _ => false

end ColumnType

end EntityQuery.Wire
