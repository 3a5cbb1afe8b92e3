import EntityQuery.Metadata

namespace EntityQuery

/-- The alias of one session: an override, and the alias itself once it is fixed. The first question
that needs the alias fixes it, and an override comes too late after that. -/
structure AliasResolver where
  entity : EntityMeta
  override? : Option String := none
  fixed? : Option String := none
deriving DecidableEq

namespace AliasResolver

variable (r : AliasResolver)

/-- The alias that the session has or would get: the override, else the declared alias, else the
short name of the entity, without any dots. -/
def entityAlias : String :=
  match r.fixed? with
  | some name => name
  | none =>
    let base := (r.override?.or r.entity.alias?).getD r.entity.shortName
    String.ofList (base.toList.filter (· != '.'))

/-- The resolver after its alias was needed. -/
def fix : AliasResolver :=
  { r with fixed? := some r.entityAlias }

/-- Overrides the alias as long as it is not fixed. -/
def withAlias (name : String) : AliasResolver :=
  match r.fixed? with
  | some _ => r
  | none => { r with override? := some name }

/-- Whether a name is qualified: a declared name without a dot. -/
def qualifies (name : String) : Bool :=
  !name.toList.contains '.' && r.entity.declares name

/-- A declared name behind the alias and a dot; any other text as it is. -/
def qualify (name : String) : String :=
  if r.qualifies name then r.entityAlias ++ "." ++ name else name

/-- The resolver after a name was qualified. -/
def afterQualify (name : String) : AliasResolver :=
  if r.qualifies name then r.fix else r

/-- A text without the alias and the dot at its start. -/
def strip (text : String) : String :=
  match r.entityAlias.toList.isPrefixOf? text.toList with
  | some ('.' :: rest) => String.ofList rest
  | _ => text

@[simp] theorem entityAlias_fix : r.fix.entityAlias = r.entityAlias := rfl

theorem entity_afterQualify (name : String) : (r.afterQualify name).entity = r.entity := by
  rw [afterQualify]
  split <;> rfl

theorem entityAlias_afterQualify (name : String) :
    (r.afterQualify name).entityAlias = r.entityAlias := by
  rw [afterQualify]
  split <;> rfl

/-- The alias that qualifies a name is the same before and after it was needed. -/
theorem qualify_afterQualify (name field : String) :
    (r.afterQualify name).qualify field = r.qualify field := by
  rw [qualify, qualify, qualifies, qualifies, entity_afterQualify, entityAlias_afterQualify]

end AliasResolver

end EntityQuery
