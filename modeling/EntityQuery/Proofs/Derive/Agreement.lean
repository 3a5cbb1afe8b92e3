import EntityQuery.Proofs.Derive.Field
import EntityQuery.Proofs.Metadata

namespace EntityQuery

/-! ### Related rows -/

/-- Everything on the right is related to something on the left. -/
theorem exists_of_mem_right {α β : Type} {R : α → β → Prop} {as : List α} {bs : List β} {b : β}
    (h : List.Forall₂ R as bs) (hb : b ∈ bs) : ∃ a ∈ as, R a b := by
  induction h with
  | nil => cases hb
  | cons hfirst _ ih =>
    rcases List.mem_cons.1 hb with rfl | hrest
    · exact ⟨_, List.mem_cons_self, hfirst⟩
    · obtain ⟨a, hmem, ha⟩ := ih hrest
      exact ⟨a, List.mem_cons_of_mem _ hmem, ha⟩

/-- A second relation between related rows can be told from the left row, if it can be told from
each item there. -/
theorem forall₂_iff_of_forall₂ {α β : Type} {R S : α → β → Prop} {P : α → Prop} {as : List α}
    {bs : List β} (h : List.Forall₂ R as bs) (hiff : ∀ a b, R a b → (S a b ↔ P a)) :
    List.Forall₂ S as bs ↔ ∀ a ∈ as, P a := by
  induction h with
  | nil => simp
  | cons hfirst _ ih => rw [List.forall₂_cons, List.forall_mem_cons, hiff _ _ hfirst, ih]

namespace Derive

/-! ### What the calls build -/

/-- The description of a field that a call adds. -/
def BuilderCall.fieldMeta? : BuilderCall → Option FieldMeta
  | field chain => some chain.eval
  | _ => none

/-- The description of an association that a call adds. -/
def BuilderCall.associationMeta? : BuilderCall → Option AssociationMeta
  | association chain => some chain.eval
  | _ => none

/-- Calls add one after the other. -/
theorem foldl_apply {α : Type} (view : EntityDecl → List α) (pick : BuilderCall → Option α)
    (happly : ∀ decl call, view (BuilderCall.apply decl call) = view decl ++ (pick call).toList)
    (calls : List BuilderCall) (decl : EntityDecl) :
    view (calls.foldl BuilderCall.apply decl) = view decl ++ calls.filterMap pick := by
  induction calls generalizing decl with
  | nil => exact (List.append_nil _).symm
  | cons call rest ih =>
    rw [List.foldl_cons, ih, happly, List.append_assoc, List.filterMap_cons]
    cases pick call <;> rfl

/-- The fields of a description are those that the calls add, in their order. -/
theorem fields_decl (impl : EntityImpl) :
    impl.decl.fields = impl.calls.filterMap BuilderCall.fieldMeta? :=
  foldl_apply EntityDecl.fields BuilderCall.fieldMeta?
    (fun _ call => by cases call <;> simp [BuilderCall.apply, BuilderCall.fieldMeta?]) _ _

theorem associations_decl (impl : EntityImpl) :
    impl.decl.associations = impl.calls.filterMap BuilderCall.associationMeta? :=
  foldl_apply EntityDecl.associations BuilderCall.associationMeta?
    (fun _ call => by cases call <;> simp [BuilderCall.apply, BuilderCall.associationMeta?]) _ _

/-- What is derived for each of the fields: a reading and a call, in order. -/
structure DerivesFrom (declared : List Field) (impl : EntityImpl) (record : RecordImpl)
    (described : List (ReadField × BuilderCall)) : Prop where
  derived : List.Forall₂ (fun f found => ReadsOptions f found.1 ∧ Derived f found.1 found.2)
    declared described
  fields : impl.decl.fields = (described.map Prod.snd).filterMap BuilderCall.fieldMeta?
  associations :
    impl.decl.associations = (described.map Prod.snd).filterMap BuilderCall.associationMeta?
  reads : record.reads = described.map fun found => found.1.read

/-- A derivation that succeeds has read every field and made one call and one read for it. -/
theorem exists_derivesFrom {item : Item} {impl : EntityImpl} {record : RecordImpl}
    (h : item.deriveEntity = .ok (impl, record)) :
    ∃ described, DerivesFrom item.fields impl record described := by
  unfold Item.deriveEntity at h
  split at h
  · cases h
  · obtain ⟨options, -, h⟩ := bind_eq_ok h
    obtain ⟨fields, hfields, h⟩ := bind_eq_ok h
    obtain ⟨described, hdescribed, h⟩ := bind_eq_ok h
    cases h
    have hnamed : item.fields = fields := by
      unfold Item.namedFields at hfields
      cases hbody : item.body <;> rw [hbody] at hfields <;> cases hfields
      rfl
    refine ⟨described, ?_, ?_, ?_, ?_⟩
    · rw [hnamed]
      exact (forall₂_of_mapM_ok hdescribed).imp fun _ _ => derived_of_describe
    · rw [fields_decl]
      cases options.table? <;> cases options.alias? <;> rfl
    · rw [associations_decl]
      cases options.table? <;> cases options.alias? <;> rfl
    · exact List.map_map

/-! ### The description and the reading together -/

variable {declared : List Field} {impl : EntityImpl} {record : RecordImpl} {m : EntityMeta}
  {described : List (ReadField × BuilderCall)} {f : Field} {read : ReadField} {call : BuilderCall}

/-- A field is described as a field, unless it is an association. -/
theorem Derived.rel_fieldMeta? (h : Derived f read call) :
    Option.Rel (fun f field => DescribesField f field ∧ TypeFor f field.type)
      (Option.guard (fun f => !f.isAssociation) f) call.fieldMeta? := by
  cases h with
  | field hkind hdescribes htype _ =>
    rw [Option.guard, hkind]
    exact .some ⟨hdescribes, htype⟩
  | association hkind _ _ =>
    rw [Option.guard, hkind]
    exact .none

/-- The call for a field adds an association exactly if the field is one, and then describes it. -/
theorem Derived.rel_associationMeta? (h : Derived f read call) :
    Option.Rel DescribesAssociation (Option.guard Field.isAssociation f)
      call.associationMeta? := by
  cases h with
  | field hkind _ _ _ =>
    rw [Option.guard, hkind]
    exact .none
  | association hkind hdescribes _ =>
    rw [Option.guard, hkind]
    exact .some hdescribes

namespace DerivesFrom

/-- The fields of a description are the fields of the item that are no associations, in the order of
the item, each with its type. -/
theorem forall₂_fields (h : DerivesFrom declared impl record described) :
    List.Forall₂ (fun f field => DescribesField f field ∧ TypeFor f field.type)
      (declared.filter fun f => !f.isAssociation) impl.decl.fields := by
  rw [h.fields, List.filterMap_map, ← List.filterMap_eq_filter]
  exact List.rel_filterMap (fun _ _ hderived => hderived.2.rel_fieldMeta?) h.derived

/-- The associations of a description are those of the item, in the order of the item. -/
theorem forall₂_associations (h : DerivesFrom declared impl record described) :
    List.Forall₂ DescribesAssociation (declared.filter Field.isAssociation)
      impl.decl.associations := by
  rw [h.associations, List.filterMap_map, ← List.filterMap_eq_filter]
  exact List.rel_filterMap (fun _ _ hderived => hderived.2.rel_associationMeta?) h.derived

/-- The fields are read in order, each at its type. -/
theorem map_reads (h : DerivesFrom declared impl record described) :
    record.reads.map (fun read => (read.field, read.type)) =
      declared.map fun f => (f.name, f.type) := by
  rw [h.reads, List.map_map]
  have hsame : List.Forall₂
      (fun f found => (f.name, f.type) = (found.1.field.name, found.1.field.type))
      declared described :=
    h.derived.imp fun _ _ hderived => by rw [hderived.1.field]
  rw [← List.forall₂_map_right_iff, ← List.forall₂_map_left_iff, List.forall₂_eq_eq_eq] at hsame
  exact hsame.symm

/-- A field is read from the column that the description has for it. -/
theorem columnFor?_of_mem_reads (h : DerivesFrom declared impl record described)
    (hfields : m.fields = impl.decl.fields)
    (hassociations : m.associations = impl.decl.associations) {read : FieldRead}
    (hmem : read ∈ record.reads) :
    m.columnFor? read.field = some read.column := by
  rw [h.reads] at hmem
  obtain ⟨⟨found, call⟩, hfound, rfl⟩ := List.mem_map.1 hmem
  obtain ⟨f, -, hread, hderived⟩ := exists_of_mem_right h.derived hfound
  have hname : found.read.field = f.name := congrArg Field.name hread.field
  have hcall : call ∈ described.map Prod.snd := List.mem_map_of_mem hfound
  cases hderived with
  | @field chain _ hdescribes _ hcolumn =>
    have hchain : chain.eval ∈ m.fields := by
      rw [hfields, h.fields]
      exact List.mem_filterMap.2 ⟨_, hcall, rfl⟩
    rw [hname, ← hdescribes.name, EntityMeta.columnFor?_of_mem_fields hchain, hcolumn]
    rfl
  | @association chain _ hdescribes hcolumn =>
    have hchain : chain.eval ∈ m.associations := by
      rw [hassociations, h.associations]
      exact List.mem_filterMap.2 ⟨_, hcall, rfl⟩
    rw [hname, ← hdescribes.name, EntityMeta.columnFor?_of_mem_associations hchain, hcolumn]
    rfl

end DerivesFrom

/-- The description and the reading of a record agree on the fields of a declaration: each is read
once, at its type and in order, from the column that the description has for it, and is described as
a field or, with the target of an association, as an association. -/
structure Agrees (declared : List Field) (m : EntityMeta) (record : RecordImpl) : Prop where
  reads : record.reads.map (fun read => (read.field, read.type)) =
    declared.map fun f => (f.name, f.type)
  columns : ∀ read ∈ record.reads, m.columnFor? read.field = some read.column
  fields : List.Forall₂ DescribesField (declared.filter fun f => !f.isAssociation) m.fields
  associations :
    List.Forall₂ DescribesAssociation (declared.filter Field.isAssociation) m.associations
  identifier : m.identifier =
    (declared.filter fun f => f.isMarked && !f.isAssociation).map Field.name

/-- The identifier consists of the fields that are marked. -/
theorem map_name_filter_isId {fields : List FieldMeta}
    (h : List.Forall₂ DescribesField declared fields) :
    (fields.filter FieldMeta.isId).map FieldMeta.name =
      (declared.filter Field.isMarked).map Field.name := by
  induction h with
  | nil => rfl
  | cons hfirst _ ih =>
    rw [List.filter_cons, List.filter_cons, hfirst.isId]
    split
    · rw [List.map_cons, List.map_cons, ih, hfirst.name]
    · exact ih

/-- The values of a field have the type that is given for them, or mean what their type means. -/
def HasType (f : Field) (field : FieldMeta) : Prop :=
  match f.givenType? with
  | some text => FieldType.ofText? text = some field.type
  | none => Means f.type field.type

/-- A described type is the right one, unless it was inferred behind an option of an option, where
the description has no type. -/
theorem hasType_iff_of_typeFor {field : FieldMeta} (h : TypeFor f field.type) :
    HasType f field ↔ (f.givenType? = none → NestsOption f.type → Means f.type .other) := by
  unfold TypeFor at h
  unfold HasType
  cases hgiven : f.givenType? with
  | some text =>
    rw [hgiven] at h
    exact ⟨fun _ hnone => (nomatch hnone), fun _ => h⟩
  | none =>
    rw [hgiven] at h
    simp only at h
    simp only [h, forall_const]
    exact means_inferType_iff

/-- What is derived for an entity describes it as its records are read. The types of the fields are
the given ones and those that the declared types mean, exactly if no type stops the derivation at an
option of an option. -/
theorem agrees_and_hasTypes_iff {source : ItemSource} {item : Item} {impl : EntityImpl}
    {record : RecordImpl} {m : EntityMeta} (hread : source.read = .ok item)
    (hexpand : source.expand .entity = .ok (some impl, record)) (heval : impl.eval = .ok m) :
    Agrees item.fields m record ∧
      (List.Forall₂ HasType (item.fields.filter fun f => !f.isAssociation) m.fields ↔
        ∀ f ∈ item.fields, f.isAssociation = false → f.givenType? = none →
          NestsOption f.type → Means f.type .other) := by
  have hderive : item.deriveEntity = .ok (impl, record) := by
    obtain ⟨item', hitem, hexpand⟩ := bind_eq_ok hexpand
    rw [hread] at hitem
    cases hitem
    obtain ⟨⟨impl', record'⟩, hderive, h⟩ := bind_eq_ok hexpand
    cases h
    exact hderive
  obtain ⟨described, hderives⟩ := exists_derivesFrom hderive
  obtain ⟨hfields, hassociations⟩ := EntityDecl.build_ok heval
  have htyped := hderives.forall₂_fields
  have hdescribes := htyped.imp fun _ _ h => h.1
  rw [← hfields] at htyped hdescribes
  refine ⟨⟨hderives.map_reads, ?_, hdescribes, ?_, ?_⟩, ?_⟩
  · exact fun read hmem => hderives.columnFor?_of_mem_reads hfields hassociations hmem
  · rw [hassociations]
    exact hderives.forall₂_associations
  · rw [EntityMeta.identifier, map_name_filter_isId hdescribes, List.filter_filter]
  · have hiff := forall₂_iff_of_forall₂ (S := HasType) htyped
      fun _ _ h => hasType_iff_of_typeFor h.2
    rw [hiff]
    simp only [List.mem_filter, Bool.not_eq_true', and_imp]

/-- Whether a declaration is accepted, and what is derived from it describes an entity. -/
def ItemSource.describesEntity (source : ItemSource) : Bool :=
  ((source.expand .entity).toOption.bind Prod.fst).any fun impl => impl.eval.toOption.isSome

/-- A computed test shows that an item is read, expanded and described, without computing what it
becomes. -/
theorem exists_of_describesEntity {source : ItemSource} (h : source.describesEntity) :
    ∃ item impl record m, source.read = .ok item ∧
      source.expand .entity = .ok (some impl, record) ∧ impl.eval = .ok m := by
  unfold ItemSource.describesEntity at h
  cases hexpand : source.expand .entity with
  | error fault =>
    rw [hexpand] at h
    cases h
  | ok derived =>
    obtain ⟨impl, record⟩ := derived
    rw [hexpand] at h
    obtain ⟨item, hread, -⟩ := bind_eq_ok hexpand
    cases impl with
    | none => cases h
    | some impl =>
      obtain ⟨m, heval⟩ := exists_ok_of_isSome (x := impl.eval) h
      exact ⟨item, impl, record, m, hread, rfl, heval⟩

/-- An order of a customer: its fields have an option and an association among them, and a column
that is given. -/
def Samples.order : ItemSource where
  name := "Order"
  attributes := ["orm(table = \"orders\", alias = \"o\")"]
  fields :=
    [⟨"id", "i64", ["orm(id)"]⟩,
      ⟨"status", "String", []⟩,
      ⟨"amount", "Decimal", []⟩,
      ⟨"created_at", "NaiveDateTime", ["orm(column = \"placed_on\")"]⟩,
      ⟨"note", "Option<String>", []⟩,
      ⟨"customer", "Option<i64>",
        ["orm(association = \"Customer\", target_table = \"customers\")"]⟩]

/-- An order, with an option, an association and a given column. -/
theorem agrees_and_hasTypes_iff_order :
    ∃ item impl record m, Samples.order.read = .ok item ∧
      Samples.order.expand .entity = .ok (some impl, record) ∧ impl.eval = .ok m ∧
      Agrees item.fields m record ∧
      (List.Forall₂ HasType (item.fields.filter fun f => !f.isAssociation) m.fields ↔
        ∀ f ∈ item.fields, f.isAssociation = false → f.givenType? = none →
          NestsOption f.type → Means f.type .other) := by
  have hdescribes : Samples.order.describesEntity := by decide +kernel
  obtain ⟨item, impl, record, m, hread, hexpand, heval⟩ := exists_of_describesEntity hdescribes
  exact ⟨item, impl, record, m, hread, hexpand, heval,
    agrees_and_hasTypes_iff hread hexpand heval⟩

/-- A field that is an option of an option of a number. -/
def Samples.nestedField : Field where
  name := "f"
  type := (tokens? "Option<Option<i64>>").getD []
  attributes := []

/-- A document with such a field. -/
def Samples.nestedOption : ItemSource where
  name := "Doc"
  fields := [⟨"f", "Option<Option<i64>>", []⟩]

/-- The values behind both options are numbers. -/
theorem means_nestedField : Means Samples.nestedField.type .bigInt := by
  have hnumber : Means ((tokens? "i64").getD []) .bigInt := by
    have hpath : pathMeaning ((tokens? "i64").getD []) = .bigInt := by decide +kernel
    rw [← hpath]
    exact .path (not_looksThrough (by decide +kernel) (by decide +kernel))
  have houter : IsOptionOf Samples.nestedField.type ((tokens? "Option<i64>").getD []) :=
    ⟨by decide +kernel, by decide +kernel⟩
  have hinner : IsOptionOf ((tokens? "Option<i64>").getD []) ((tokens? "i64").getD []) :=
    ⟨by decide +kernel, by decide +kernel⟩
  exact .behind (.option houter) (.behind (.option hinner) hnumber)

/-- The values of an option of an option of a number mean numbers, and are described as something
else. -/
theorem misses_type_of_nestedOption :
    ∃ item impl record m, Samples.nestedOption.read = .ok item ∧
      Samples.nestedOption.expand .entity = .ok (some impl, record) ∧ impl.eval = .ok m ∧
      item.fields = [Samples.nestedField] ∧
      m.fields = [{ name := "f", type := .other, nullable := true }] ∧
      ¬ List.Forall₂ HasType (item.fields.filter fun f => !f.isAssociation) m.fields := by
  have hdescribes : Samples.nestedOption.describesEntity := by decide +kernel
  obtain ⟨item, impl, record, m, hread, hexpand, heval⟩ := exists_of_describesEntity hdescribes
  have hitem : item.fields = [Samples.nestedField] := by
    have hfields : Samples.nestedOption.read.map Item.fields = .ok [Samples.nestedField] := by
      decide +kernel
    rw [hread] at hfields
    exact Except.ok.inj hfields
  have hm : m.fields = [{ name := "f", type := .other, nullable := true }] := by
    have hdecl : (Samples.nestedOption.expand .entity).map
        (fun derived => derived.1.map fun impl => impl.decl.fields) =
          .ok (some [{ name := "f", type := .other, nullable := true }]) := by
      decide +kernel
    rw [hexpand] at hdecl
    rw [(EntityDecl.build_ok heval).1]
    exact Option.some.inj (Except.ok.inj hdecl)
  refine ⟨item, impl, record, m, hread, hexpand, heval, hitem, hm, fun htypes => ?_⟩
  have hkept :
      [Samples.nestedField].filter (fun f => !f.isAssociation) = [Samples.nestedField] := by
    decide +kernel
  rw [hitem, hkept, hm, List.forall₂_cons] at htypes
  have hother : Means Samples.nestedField.type .other := htypes.1
  cases means_nestedField.unique hother

end Derive

end EntityQuery
