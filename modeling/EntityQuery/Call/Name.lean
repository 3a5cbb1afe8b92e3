import EntityQuery.Call.Operator
import EntityQuery.Metadata

namespace EntityQuery.Call

/-- How the predicate of a call is attached to the ones before it. A call without a conjunction
attaches like `and`. -/
inductive Conjunction
  | and
  | or
  | none
deriving DecidableEq, Repr

/-- The name of a method taken apart. The field is a declared name. -/
structure ParsedCall where
  conjunction : Conjunction
  field : String
  operator : Operator
deriving DecidableEq, Repr

/-- What follows a conjunction's word, if an ASCII capital does. The capital is lower-cased. -/
def stripConjunction? (word name : List Char) : Option (List Char) :=
  match word.isPrefixOf? name with
  | some (c :: rest) => if c.isUpper then some (c.toLower :: rest) else none
  | _ => none

/-- Takes one leading `and` or `or` off a name, where an ASCII capital follows it. -/
def splitConjunction (name : List Char) : Conjunction × List Char :=
  match stripConjunction? "and".toList name with
  | some rest => (.and, rest)
  | none =>
    match stripConjunction? "or".toList name with
    | some rest => (.or, rest)
    | none => (.none, name)

/-- The field part of a name that has a keyword at the given place. A leading keyword has to be
followed by an ASCII capital, a trailing one has to leave something. -/
def stem? (placement : Placement) (keyword name : List Char) : Option (List Char) :=
  match placement with
  | .leading =>
    match keyword.isPrefixOf? name with
    | some (c :: rest) => if c.isUpper then some (c :: rest) else none
    | _ => none
  | .trailing =>
    match keyword.isSuffixOf? name with
    | some (c :: rest) => some (c :: rest)
    | _ => none

/-- The first entry of a table whose keyword the name has, with the field part. -/
def OperatorTable.match? (table : OperatorTable) (name : List Char) : Option (Entry × List Char) :=
  table.entries.findSome? fun entry =>
    (stem? table.placement entry.keyword.toList name).map fun stem => (entry, stem)

/-- The declared name that a field part spells: in snake case, in camel case, or as it is. -/
def declaredField? (entity : EntityMeta) (part : String) : Option String :=
  [Text.snakeCase part, Text.lowerCamelCase part, part].find? entity.declares

/-- Reads a method's name with the keywords of one table. -/
def parseWith (table : OperatorTable) (entity : EntityMeta) (method : String) (argCount : Nat) :
    Except QueryError ParsedCall :=
  let (conjunction, name) := splitConjunction method.toList
  match table.match? name with
  | none => .error (.unrecognizedMethod method)
  | some (entry, stem) =>
    let part := String.ofList stem
    if entry.needsArgument && argCount == 0 then .error (.missingArgument method)
    else
      match declaredField? entity part with
      | some field => .ok ⟨conjunction, field, entry.operator⟩
      | none =>
        .error (.unrecognizedField entity.shortName (Text.lowerCamelCase part) method)

/-- Reads a method's name, as in `orFilterByStatus` and `createdAtGreaterThan`: an optional
conjunction, and a keyword in front of the field's name or behind it. The structural keywords are
tried first, and the comparison keywords when none of those matches. -/
def parse (entity : EntityMeta) (method : String) (argCount : Nat) :
    Except QueryError ParsedCall :=
  match parseWith structuralTable entity method argCount with
  | .error (.unrecognizedMethod _) => parseWith comparisonTable entity method argCount
  | result => result

end EntityQuery.Call
