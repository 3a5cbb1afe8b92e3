import EntityQuery.Metadata
import Mathlib.Data.List.Nodup

namespace EntityQuery

/-- An item is the first one with its key if no key stands twice. -/
theorem find?_of_nodup {α : Type} {key : α → String} {items : List α} {a : α}
    (hnodup : (items.map key).Nodup) (h : a ∈ items) :
    items.find? (fun b => key b == key a) = some a := by
  induction items with
  | nil => cases h
  | cons first rest ih =>
    rw [List.map_cons, List.nodup_cons] at hnodup
    rcases List.mem_cons.1 h with rfl | hrest
    · rw [List.find?_cons_of_pos (by simp)]
    · have hne : key first ≠ key a := by
        intro heq
        exact hnodup.1 (heq ▸ List.mem_map_of_mem hrest)
      rw [List.find?_cons_of_neg (by simpa using hne)]
      exact ih hnodup.2 hrest

namespace EntityMeta

variable {m : EntityMeta}

/-- Every field is found by its name. The description has no two names that are the same, so no
other field is found in its place. -/
theorem field?_of_mem {field : FieldMeta} (h : field ∈ m.fields) :
    m.field? field.name = some field :=
  find?_of_nodup (List.nodup_append.1 m.names_nodup).1 h

/-- Every association is found by its name. -/
theorem association?_of_mem {assoc : AssociationMeta} (h : assoc ∈ m.associations) :
    m.association? assoc.name = some assoc :=
  find?_of_nodup (List.nodup_append.1 m.names_nodup).2.1 h

/-- The column of a field is found by its name. -/
theorem columnFor?_of_mem_fields {field : FieldMeta} (h : field ∈ m.fields) :
    m.columnFor? field.name = some field.column := by
  rw [columnFor?, field?_of_mem h]

/-- No field has the name of an association. -/
theorem field?_of_mem_associations {assoc : AssociationMeta} (h : assoc ∈ m.associations) :
    m.field? assoc.name = none := by
  obtain ⟨-, -, hdisjoint⟩ := List.nodup_append.1 m.names_nodup
  rw [field?, List.find?_eq_none]
  intro field hfield heq
  exact hdisjoint _ (List.mem_map_of_mem hfield) _ (List.mem_map_of_mem h) (by simpa using heq)

/-- The join column of an association is found by its name, since no field of that name hides it. -/
theorem columnFor?_of_mem_associations {assoc : AssociationMeta} (h : assoc ∈ m.associations) :
    m.columnFor? assoc.name = some assoc.joinColumn := by
  rw [columnFor?, field?_of_mem_associations h, association?_of_mem h]
  rfl

/-- A name finds a field exactly if that is a field of that name. -/
theorem field?_eq_some_iff {name : String} {field : FieldMeta} :
    m.field? name = some field ↔ field ∈ m.fields ∧ field.name = name := by
  constructor
  · intro h
    exact ⟨List.mem_of_find?_eq_some h, by simpa using List.find?_some h⟩
  · rintro ⟨hmem, rfl⟩
    exact field?_of_mem hmem

/-- A name finds an association exactly if that is an association of that name. -/
theorem association?_eq_some_iff {name : String} {assoc : AssociationMeta} :
    m.association? name = some assoc ↔ assoc ∈ m.associations ∧ assoc.name = name := by
  constructor
  · intro h
    exact ⟨List.mem_of_find?_eq_some h, by simpa using List.find?_some h⟩
  · rintro ⟨hmem, rfl⟩
    exact association?_of_mem hmem

theorem hasField_iff {name : String} : m.hasField name ↔ name ∈ m.fields.map FieldMeta.name := by
  rw [hasField, Option.isSome_iff_exists, List.mem_map]
  exact exists_congr fun _ => field?_eq_some_iff

theorem hasAssociation_iff {name : String} :
    m.hasAssociation name ↔ name ∈ m.associations.map AssociationMeta.name := by
  rw [hasAssociation, Option.isSome_iff_exists, List.mem_map]
  exact exists_congr fun _ => association?_eq_some_iff

/-- A name is looked up either among the fields or among the associations. -/
theorem not_hasField_and_hasAssociation (name : String) :
    ¬ (m.hasField name ∧ m.hasAssociation name) := by
  rintro ⟨hfield, hassoc⟩
  obtain ⟨assoc, hmem, rfl⟩ := List.mem_map.1 (hasAssociation_iff.1 hassoc)
  rw [hasField, field?_of_mem_associations hmem] at hfield
  cases hfield

theorem mem_identifier_iff {name : String} :
    name ∈ m.identifier ↔ ∃ field ∈ m.fields, field.isId ∧ field.name = name := by
  simp only [identifier, List.mem_map, List.mem_filter, and_assoc]

/-- Only fields have types. -/
theorem typeOf?_eq_none_of_not_field {name : String}
    (h : m.hasAssociation name ∨ ¬ m.declares name) : m.typeOf? name = none := by
  rcases h with hassoc | hdeclares
  · obtain ⟨assoc, hassoc⟩ := Option.isSome_iff_exists.1 hassoc
    obtain rfl : assoc.name = name := by simpa using List.find?_some hassoc
    rw [typeOf?, field?_of_mem_associations (List.mem_of_find?_eq_some hassoc)]
    rfl
  · rw [declares, Bool.or_eq_true, not_or] at hdeclares
    rw [typeOf?, Option.not_isSome_iff_eq_none.1 hdeclares.1]
    rfl

end EntityMeta

/-- An alias passes its check exactly if it can be read as one; a missing alias passes. -/
theorem EntityDecl.aliasFault?_eq_none_iff {decl : EntityDecl} :
    decl.aliasFault? = none ↔ ∀ a ∈ decl.alias?, (Ident.parseAlias a).isOk := by
  refine ⟨alias_isOk_of_aliasFault?, fun h => ?_⟩
  unfold aliasFault?
  cases halias : decl.alias? with
  | none => rfl
  | some name =>
    have hok := h name halias
    simp only
    split
    · rfl
    · rename_i fault hparse
      rw [hparse] at hok
      cases hok

/-- A declaration passes its checks if it has a name, if its table and its alias can be written, and
if no name is declared twice. -/
theorem EntityDecl.isOk_build_iff {decl : EntityDecl} :
    decl.build.isOk ↔ decl.name ≠ "" ∧ (Ident.parse decl.table).isOk ∧
      (∀ a ∈ decl.alias?, (Ident.parseAlias a).isOk) ∧
      (declaredNames decl.fields decl.associations).Nodup := by
  rw [← aliasFault?_eq_none_iff]
  unfold EntityDecl.build
  split
  · rename_i hname
    exact iff_of_false Bool.false_ne_true fun h => h.1 hname
  · rename_i hname
    split
    · rename_i fault htable
      refine iff_of_false Bool.false_ne_true fun h => ?_
      rw [htable] at h
      cases h.2.1
    · rename_i ident htable
      split
      · rename_i fault halias
        refine iff_of_false Bool.false_ne_true fun h => ?_
        rw [halias] at h
        cases h.2.2.1
      · rename_i halias
        split
        · rename_i name hnames
          refine iff_of_false Bool.false_ne_true fun h => ?_
          rw [firstRepeat?_eq_none_iff.2 ⟨h.2.2.2, by simp⟩] at hnames
          cases hnames
        · rename_i hnames
          exact iff_of_true rfl
            ⟨hname, by rw [htable]; rfl, halias, (firstRepeat?_eq_none_iff.1 hnames).1⟩

/-- A description holds what its declaration gives. -/
structure EntityMeta.Describes (m : EntityMeta) (decl : EntityDecl) : Prop where
  name : m.name = decl.name
  table : m.table = decl.table
  alias? : m.alias? = decl.alias?
  fields : m.fields = decl.fields
  associations : m.associations = decl.associations

/-- What a declaration that passes the checks builds has its parts as they were declared, with the
default for a missing table. -/
theorem EntityDecl.describes_of_build {decl : EntityDecl} {m : EntityMeta}
    (h : decl.build = .ok m) : m.Describes decl := by
  unfold EntityDecl.build at h
  split at h
  · cases h
  · split at h
    · cases h
    · split at h
      · cases h
      · split at h
        · cases h
        · cases h
          exact ⟨rfl, rfl, rfl, rfl, rfl⟩

/-- A description has the fields and the associations of its declaration. -/
theorem EntityDecl.build_ok {decl : EntityDecl} {m : EntityMeta} (h : decl.build = .ok m) :
    m.fields = decl.fields ∧ m.associations = decl.associations :=
  ⟨(describes_of_build h).fields, (describes_of_build h).associations⟩

/-! ### What the names of a declaration mean -/

/-- Every name means in a description what the declaration says of it. A declared name has its own
entry with its type and its column, and no other one; the names of the identifier stand in the order
of the declaration; and a name that is not declared means nothing. -/
structure EntityMeta.Resolves (m : EntityMeta) (decl : EntityDecl) : Prop where
  field_iff : ∀ name field, m.field? name = some field ↔ field ∈ decl.fields ∧ field.name = name
  association_iff : ∀ name assoc, m.association? name = some assoc ↔
    assoc ∈ decl.associations ∧ assoc.name = name
  hasField_iff : ∀ name, m.hasField name ↔ name ∈ decl.fields.map FieldMeta.name
  hasAssociation_iff : ∀ name, m.hasAssociation name ↔
    name ∈ decl.associations.map AssociationMeta.name
  apart : ∀ name, ¬ (m.hasField name ∧ m.hasAssociation name)
  of_field : ∀ field ∈ decl.fields,
    m.typeOf? field.name = some field.type ∧ m.columnFor? field.name = some field.column
  of_association : ∀ assoc ∈ decl.associations,
    m.typeOf? assoc.name = none ∧ m.columnFor? assoc.name = some assoc.joinColumn
  identifier_sublist : m.identifier.Sublist (decl.fields.map FieldMeta.name)
  identifier_iff : ∀ name, name ∈ m.identifier ↔
    ∃ field ∈ decl.fields, field.isId ∧ field.name = name
  undeclared : ∀ name, name ∉ declaredNames decl.fields decl.associations →
    m.field? name = none ∧ m.association? name = none ∧ m.typeOf? name = none ∧
      m.columnFor? name = none

namespace EntityMeta

variable {m : EntityMeta}

/-- A name that is not declared is looked up in vain. -/
theorem lookups_of_notMem {name : String} (h : name ∉ declaredNames m.fields m.associations) :
    m.field? name = none ∧ m.association? name = none ∧ m.typeOf? name = none ∧
      m.columnFor? name = none := by
  rw [declaredNames, List.mem_append, not_or, ← hasField_iff, ← hasAssociation_iff] at h
  have hfield : m.field? name = none := Option.not_isSome_iff_eq_none.1 h.1
  have hassoc : m.association? name = none := Option.not_isSome_iff_eq_none.1 h.2
  refine ⟨hfield, hassoc, ?_, ?_⟩
  · rw [typeOf?, hfield]
    rfl
  · rw [columnFor?, hfield, hassoc]
    rfl

/-- A description answers by every name with what was declared under it. -/
theorem Describes.resolves {decl : EntityDecl} (h : m.Describes decl) : m.Resolves decl := by
  obtain ⟨_, _, _, fields, associations⟩ := decl
  obtain ⟨-, -, -, rfl, rfl⟩ := h
  exact
    { field_iff := fun _ _ => field?_eq_some_iff
      association_iff := fun _ _ => association?_eq_some_iff
      hasField_iff := fun _ => hasField_iff
      hasAssociation_iff := fun _ => hasAssociation_iff
      apart := not_hasField_and_hasAssociation
      of_field := fun field hmem =>
        ⟨congrArg (Option.map FieldMeta.type) (field?_of_mem hmem), columnFor?_of_mem_fields hmem⟩
      of_association := fun assoc hmem =>
        ⟨congrArg (Option.map FieldMeta.type) (field?_of_mem_associations hmem),
          columnFor?_of_mem_associations hmem⟩
      identifier_sublist := List.filter_sublist.map FieldMeta.name
      identifier_iff := fun _ => mem_identifier_iff
      undeclared := fun _ => lookups_of_notMem }

end EntityMeta

/-- A declaration passes its checks exactly if it has a name, if its table and its alias can be
written, and if no two of its fields and associations have one name; then every name means what the
declaration says of it, and nothing else. -/
theorem EntityDecl.build_resolves (decl : EntityDecl) :
    (decl.build.isOk ↔ decl.name ≠ "" ∧ (Ident.parse decl.table).isOk ∧
      (∀ a ∈ decl.alias?, (Ident.parseAlias a).isOk) ∧
      (declaredNames decl.fields decl.associations).Nodup) ∧
    ∀ m, decl.build = .ok m → m.Resolves decl :=
  ⟨isOk_build_iff, fun _ h => (describes_of_build h).resolves⟩

/-- A user of a team, in a table that is named for the entity. -/
def Samples.declaredUser : EntityDecl where
  name := "app::model::User"
  alias? := some "u"
  fields :=
    [{ name := "id", type := .bigInt, isId := true },
      { name := "created_at", type := .dateTime, column := "created_on" }]
  associations := [{ name := "team", targetEntity := "Team" }]

/-- A user with a field that has a column of its own and with an association to a team. -/
theorem EntityDecl.build_resolves_user :
    ∃ m, Samples.declaredUser.build = .ok m ∧ m.Resolves Samples.declaredUser := by
  obtain ⟨hchecks, hresolves⟩ := build_resolves Samples.declaredUser
  have hok : Samples.declaredUser.build.isOk := by
    rw [hchecks]
    refine ⟨by decide, by decide +kernel, ?_, by decide +kernel⟩
    rintro a ⟨rfl⟩
    decide +kernel
  cases hbuild : Samples.declaredUser.build with
  | error fault =>
    rw [hbuild] at hok
    cases hok
  | ok m => exact ⟨m, rfl, hresolves m hbuild⟩

end EntityQuery
