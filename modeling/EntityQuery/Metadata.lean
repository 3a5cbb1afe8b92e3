import EntityQuery.Ident
import EntityQuery.Text.Basic
import EntityQuery.Text.Words

namespace EntityQuery

/-- A persisted field. Its column has the field's name unless another one is given. -/
structure FieldMeta where
  name : String
  type : FieldType
  column : String := name
  isId : Bool := false
  nullable : Bool := false
deriving DecidableEq, Repr

/-- A reference to another entity, stored as a foreign key column. -/
structure AssociationMeta where
  name : String
  targetEntity : String
  targetTable : String := Text.snakeCase targetEntity
  joinColumn : String := Text.snakeCase name ++ "_id"
  referencedColumn : String := "id"
  nullable : Bool := false
deriving DecidableEq, Repr

/-- The names of fields and associations, in the order of the declaration. -/
def declaredNames (fields : List FieldMeta) (associations : List AssociationMeta) : List String :=
  fields.map FieldMeta.name ++ associations.map AssociationMeta.name

/-- The name of an entity without its module path or namespace. -/
def shortNameOf (name : String) : String :=
  Text.lastSegment "\\" (Text.lastSegment "::" name)

/-- A description of an entity: a declaration that passed its checks. No name is declared twice in
it, so every lookup has at most one answer. -/
structure EntityMeta where
  name : String
  table : String
  alias? : Option String
  fields : List FieldMeta
  associations : List AssociationMeta
  name_ne_empty : name ≠ ""
  table_isOk : (Ident.parse table).isOk
  alias_isOk : ∀ a ∈ alias?, (Ident.parseAlias a).isOk
  names_nodup : (declaredNames fields associations).Nodup
deriving DecidableEq

namespace EntityMeta

variable (entity : EntityMeta)

/-- The entity's name without its path. -/
def shortName : String :=
  shortNameOf entity.name

/-- The field of a name, if there is one. -/
def field? (name : String) : Option FieldMeta :=
  entity.fields.find? (·.name == name)

/-- The association of a name, if there is one. -/
def association? (name : String) : Option AssociationMeta :=
  entity.associations.find? (·.name == name)

def hasField (name : String) : Bool :=
  (entity.field? name).isSome

def hasAssociation (name : String) : Bool :=
  (entity.association? name).isSome

def declares (name : String) : Bool :=
  entity.hasField name || entity.hasAssociation name

/-- All declared names, fields first. -/
def names : List String :=
  declaredNames entity.fields entity.associations

/-- The names of the identifier fields, in the order of the declaration. -/
def identifier : List String :=
  (entity.fields.filter FieldMeta.isId).map FieldMeta.name

/-- The declared type of a field. Associations and unknown names have none. -/
def typeOf? (name : String) : Option FieldType :=
  (entity.field? name).map FieldMeta.type

/-- The column that stores a field or an association. -/
def columnFor? (name : String) : Option String :=
  match entity.field? name with
  | some field => some field.column
  | none => (entity.association? name).map AssociationMeta.joinColumn

/-- The column that stores a name. A name that is not declared stands for itself. -/
def columnOf (name : String) : String :=
  (entity.columnFor? name).getD name

end EntityMeta

/-- The first name of a list that stands in `seen` or repeats an earlier one. -/
def firstRepeat? (seen : List String) : List String → Option String
  | [] => none
  | name :: rest => if name ∈ seen then some name else firstRepeat? (name :: seen) rest

/-- No name repeats another one if and only if the names differ from each other and from those in
`seen`. -/
theorem firstRepeat?_eq_none_iff {seen names : List String} :
    firstRepeat? seen names = none ↔ names.Nodup ∧ ∀ name ∈ names, name ∉ seen := by
  induction names generalizing seen with
  | nil => simp [firstRepeat?]
  | cons name rest ih =>
    rw [firstRepeat?]
    split
    · rename_i hmem
      simp [hmem]
    · rename_i hmem
      rw [ih, List.nodup_cons]
      constructor
      · rintro ⟨hnodup, hseen⟩
        refine ⟨⟨fun h => by simpa using hseen name h, hnodup⟩, ?_⟩
        intro other hother
        rcases List.mem_cons.1 hother with rfl | hrest
        · exact hmem
        · exact fun h => hseen other hrest (List.mem_cons_of_mem _ h)
      · rintro ⟨⟨hname, hnodup⟩, hseen⟩
        refine ⟨hnodup, fun other hother h => ?_⟩
        rcases List.mem_cons.1 h with rfl | hrest
        · exact hname hother
        · exact hseen other (List.mem_cons_of_mem _ hother) hrest

/-- An entity as its author declares it. -/
structure EntityDecl where
  name : String
  table? : Option String := none
  alias? : Option String := none
  fields : List FieldMeta := []
  associations : List AssociationMeta := []
deriving DecidableEq, Repr

namespace EntityDecl

/-- The table of the entity: the given one, or the short name in snake case. -/
def table (decl : EntityDecl) : String :=
  decl.table?.getD (Text.snakeCase (shortNameOf decl.name))

/-- The fault of the declared alias, if there is one. -/
def aliasFault? (decl : EntityDecl) : Option IdentFault :=
  match decl.alias? with
  | none => none
  | some name =>
    match Ident.parseAlias name with
    | .ok _ => none
    | .error fault => some fault

/-- An alias without a fault is one that can be read. -/
theorem alias_isOk_of_aliasFault? {decl : EntityDecl} (h : decl.aliasFault? = none) :
    ∀ a ∈ decl.alias?, (Ident.parseAlias a).isOk := by
  intro a ha
  rw [aliasFault?, ha] at h
  cases hparse : Ident.parseAlias a with
  | ok ident => rfl
  | error fault => simp [hparse] at h

/-- Checks a declaration: its name, its table, its alias, and that no name is declared twice. -/
def build (decl : EntityDecl) : Except MetadataFault EntityMeta :=
  if hname : decl.name = "" then .error .emptyName
  else
    match htable : Ident.parse decl.table with
    | .error fault => .error (.badName decl.name fault)
    | .ok _ =>
      match halias : decl.aliasFault? with
      | some fault => .error (.badName decl.name fault)
      | none =>
        match hnames : firstRepeat? [] (declaredNames decl.fields decl.associations) with
        | some name => .error (.duplicate decl.name name)
        | none =>
          .ok
            { name := decl.name
              table := decl.table
              alias? := decl.alias?
              fields := decl.fields
              associations := decl.associations
              name_ne_empty := hname
              table_isOk := by rw [htable]; rfl
              alias_isOk := alias_isOk_of_aliasFault? halias
              names_nodup := (firstRepeat?_eq_none_iff.1 hnames).1 }

end EntityDecl

end EntityQuery
