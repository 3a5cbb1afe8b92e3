import EntityQuery.Session

namespace EntityQuery

/-- The registered entities, sorted by their short names, for callers that know an entity by name
only. -/
structure Registry where
  entries : List (String × EntityMeta) := []

namespace Registry

variable (registry : Registry)

/-- Registers an entity whose short name is not taken. -/
def insert (entity : EntityMeta) : Except MetadataFault Registry :=
  if Keyed.contains entity.shortName registry.entries then
    .error (.alreadyRegistered entity.shortName)
  else .ok ⟨Keyed.insert entity.shortName entity registry.entries⟩

/-- The entity of a name, which may be qualified by a module path. -/
def get (name : String) : Except MetadataFault EntityMeta :=
  match registry.entries.lookup (Text.lastSegment "::" name) with
  | some entity => .ok entity
  | none => .error (.unknownEntity name)

/-- Whether a name has an entity. -/
def contains (name : String) : Bool :=
  (registry.get name).isOk

def size : Nat :=
  registry.entries.length

/-- The short names of the entities, in ascending order. -/
def names : List String :=
  registry.entries.map Prod.fst

/-- A session that selects the entity of a name. -/
def session (name : String) : Except MetadataFault Session :=
  (registry.get name).map fun entity => (Session.new entity).selectFromEntity none

end Registry

end EntityQuery
