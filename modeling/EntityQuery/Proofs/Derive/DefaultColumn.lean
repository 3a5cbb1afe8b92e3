import EntityQuery.Proofs.Derive.Agreement
import EntityQuery.Proofs.Ident.SnakeCase
import Mathlib.Data.List.Find

namespace EntityQuery.Derive

/-! ### Names of fields -/

/-- The mark in front of raw names, which are keywords elsewhere. -/
def rawMark : String := "r#"

/-- An ASCII name that a field can have: a word, or a raw one. -/
inductive IsFieldName : String → Prop
  | word {name : String} (h : Text.isAsciiWord name) : IsFieldName name
  | raw {name : String} (h : Text.isAsciiWord name) : IsFieldName (rawMark ++ name)

namespace Field

/-- The column of a field for which none is given. -/
def defaultColumn (f : Field) : String :=
  if f.isAssociation then Text.snakeCase f.name ++ "_id" else f.name

/-- The name of a field makes a column that is an identifier: a field has no raw name, and the first
letter or digit in the name of an association is a letter. -/
def NamesColumn (f : Field) : Prop :=
  if f.isAssociation then
    ∀ c, f.name.toList.find? Char.isAlphanum = some c → c.isDigit = false
  else ¬ rawMark.toList <+: f.name.toList

end Field

/-- The names of the fields that are considered are of ASCII characters, so that snake case works on
letters that it knows. -/
theorem isAscii_of_isFieldName {name : String} (h : IsFieldName name) :
    ∀ c ∈ name.toList, c.toNat < 128 := by
  have hword {name : String} (h : Text.isAsciiWord name) : ∀ c ∈ name.toList, c.toNat < 128 := by
    obtain ⟨first, rest, hname, hfirst, hrest⟩ :=
      Ident.isOk_parseAlias_iff.1 (Ident.isOk_parseAlias_of_isAsciiWord h)
    rw [hname]
    exact List.forall_mem_cons.2
      ⟨Ident.toNat_lt_of_isContinue (Ident.isContinue_of_isStart hfirst),
        fun c hc => Ident.toNat_lt_of_isContinue (hrest c hc)⟩
  cases h with
  | word h => exact hword h
  | raw h =>
    rw [String.toList_append]
    exact List.forall_mem_append.2 ⟨by simp [rawMark], hword h⟩

/-- A name is a column unless it is raw. -/
theorem isOk_parseAlias_name_iff {name : String} (h : IsFieldName name) :
    (Ident.parseAlias name).isOk ↔ ¬ rawMark.toList <+: name.toList := by
  have hmark {name : String} (hok : (Ident.parseAlias name).isOk) :
      ¬ rawMark.toList <+: name.toList := by
    obtain ⟨first, rest, hname, -, hrest⟩ := Ident.isOk_parseAlias_iff.1 hok
    rintro ⟨more, hraw⟩
    rw [hname] at hraw
    obtain ⟨-, rfl⟩ := List.cons.inj hraw
    exact absurd (hrest '#' List.mem_cons_self) (by decide)
  cases h with
  | word h =>
    have hok := Ident.isOk_parseAlias_of_isAsciiWord h
    exact iff_of_true hok (hmark hok)
  | raw h =>
    refine ⟨hmark, fun hnot => absurd ?_ hnot⟩
    rw [String.toList_append]
    exact List.prefix_append _ _

/-- The column of an association begins with the first letter or digit of its name, or with an
underscore where there is none. -/
theorem isOk_parseAlias_joinColumn_iff {name : String} (h : IsFieldName name) :
    (Ident.parseAlias (Text.snakeCase name ++ "_id")).isOk ↔
      ∀ c, name.toList.find? Char.isAlphanum = some c → c.isDigit = false := by
  have hascii := isAscii_of_isFieldName h
  have hfind : name.toList.find? Text.isAlphanumeric = name.toList.find? Char.isAlphanum :=
    List.find?_congr fun c hc => Text.isAlphanumeric_of_ascii (hascii c hc)
  have hcontinue : ∀ c ∈ (Text.snakeCase name ++ "_id").toList, Ident.isContinue c := by
    rw [String.toList_append]
    exact List.forall_mem_append.2
      ⟨Ident.forall_isContinue_snakeCase_iff.2 fun c hc _ => Or.inl (hascii c hc),
        by simp [Ident.isContinue]⟩
  rw [Ident.isOk_parseAlias_iff_of_isContinue hcontinue, String.toList_append, ← hfind]
  cases hfirst : name.toList.find? Text.isAlphanumeric with
  | none =>
    rw [Text.snakeCase_of_find?_eq_none hfirst]
    exact iff_of_true ⟨'_', rfl, rfl⟩ (by simp)
  | some c =>
    obtain ⟨first, hhead, hstart⟩ := Ident.exists_head?_snakeCase hfirst
      (Or.inl (hascii c (List.mem_of_find?_eq_some hfirst)))
    rw [List.head?_append, hhead]
    simp [hstart]

/-! ### The columns of a declaration -/

variable {item : Item} {impl : EntityImpl} {record : RecordImpl} {f : Field} {read : ReadField}
  {call : BuilderCall}

/-- The column of a field that has none of its own is an identifier exactly if the name of the field
makes one, by itself or in snake case. -/
theorem isOk_parseAlias_defaultColumn_iff (h : IsFieldName f.name) :
    (Ident.parseAlias f.defaultColumn).isOk ↔ f.NamesColumn := by
  unfold Field.defaultColumn Field.NamesColumn
  split
  · exact isOk_parseAlias_joinColumn_iff h
  · exact isOk_parseAlias_name_iff h

/-- A field is read from its default column unless a column is given. -/
theorem column_of_readsOptions (h : ReadsOptions f read) (hnone : f.givenColumn? = none) :
    read.column = f.defaultColumn := by
  rw [ReadField.column, h.column?, hnone, Field.defaultColumn, ← h.association?, h.field]
  cases read.options.association? <;> rfl

/-- The description of a field, if it is described as a field, has its default column unless one is
given. -/
theorem Derived.rel_column (hread : ReadsOptions f read) (h : Derived f read call) :
    Option.Rel (fun f field => f.givenColumn? = none → field.column = f.defaultColumn)
      (Option.guard (fun f => !f.isAssociation) f) call.fieldMeta? := by
  cases h with
  | field hkind _ _ hcolumn =>
    rw [Option.guard, hkind]
    exact .some fun hnone => hcolumn.trans (column_of_readsOptions hread hnone)
  | association hkind _ _ =>
    rw [Option.guard, hkind]
    exact .none

/-- An association without a column of its own is joined by the one that its name makes. -/
theorem Derived.rel_joinColumn (hread : ReadsOptions f read) (h : Derived f read call) :
    Option.Rel (fun f assoc => f.givenColumn? = none → assoc.joinColumn = f.defaultColumn)
      (Option.guard Field.isAssociation f) call.associationMeta? := by
  cases h with
  | field hkind _ _ _ =>
    rw [Option.guard, hkind]
    exact .none
  | association hkind _ hcolumn =>
    rw [Option.guard, hkind]
    exact .some fun hnone => hcolumn.trans (column_of_readsOptions hread hnone)

/-- Where no column is given for a field, it is described with its default column and read from it,
and its name decides whether that is a single unquoted identifier. -/
structure DefaultColumns (item : Item) (impl : EntityImpl) (record : RecordImpl) : Prop where
  fields : List.Forall₂ (fun f field => f.givenColumn? = none → field.column = f.defaultColumn)
    (item.fields.filter fun f => !f.isAssociation) impl.decl.fields
  associations :
    List.Forall₂ (fun f assoc => f.givenColumn? = none → assoc.joinColumn = f.defaultColumn)
      (item.fields.filter Field.isAssociation) impl.decl.associations
  reads : List.Forall₂ (fun f read => f.givenColumn? = none → read.column = f.defaultColumn)
    item.fields record.reads
  isOk_iff : ∀ f ∈ item.fields, f.givenColumn? = none →
    ((Ident.parseAlias f.defaultColumn).isOk ↔ f.NamesColumn)

/-- Whatever is derived for an entity, its default columns are identifiers exactly for those fields
whose names make them so. -/
theorem defaultColumns_of_expand {source : ItemSource} (hread : source.read = .ok item)
    (hexpand : source.expand .entity = .ok (some impl, record))
    (hnames : ∀ f ∈ item.fields, IsFieldName f.name) : DefaultColumns item impl record := by
  have hderive : item.deriveEntity = .ok (impl, record) := by
    obtain ⟨item', hitem, hexpand⟩ := bind_eq_ok hexpand
    rw [hread] at hitem
    cases hitem
    obtain ⟨⟨impl', record'⟩, hderive, h⟩ := bind_eq_ok hexpand
    cases h
    exact hderive
  obtain ⟨described, hderives⟩ := exists_derivesFrom hderive
  refine ⟨?_, ?_, ?_, fun f hf _ => isOk_parseAlias_defaultColumn_iff (hnames f hf)⟩
  · rw [hderives.fields, List.filterMap_map, ← List.filterMap_eq_filter]
    exact List.rel_filterMap (fun _ _ h => h.2.rel_column h.1) hderives.derived
  · rw [hderives.associations, List.filterMap_map, ← List.filterMap_eq_filter]
    exact List.rel_filterMap (fun _ _ h => h.2.rel_joinColumn h.1) hderives.derived
  · rw [hderives.reads, List.forall₂_map_right_iff]
    exact hderives.derived.imp fun _ _ h hnone => column_of_readsOptions h.1 hnone

/-- A document with a raw name and with two associations, one of them named by a number. -/
def Samples.oddNames : ItemSource where
  name := "Doc"
  fields :=
    [⟨"r#type", "String", []⟩, ⟨"_1", "i64", ["orm(association = \"Target\")"]⟩,
      ⟨"r#in", "i64", ["orm(association = \"Target\")"]⟩]

/-- None of the three fields has a column of its own. -/
theorem defaultColumns_of_expand_oddNames :
    ∃ item impl record, Samples.oddNames.read = .ok item ∧
      Samples.oddNames.expand .entity = .ok (some impl, record) ∧
      (∀ f ∈ item.fields, IsFieldName f.name) ∧ DefaultColumns item impl record := by
  have hdescribes : Samples.oddNames.describesEntity := by decide +kernel
  obtain ⟨item, impl, record, -, hread, hexpand, -⟩ := exists_of_describesEntity hdescribes
  have hnames : item.fields.map Field.name = ["r#type", "_1", "r#in"] := by
    have hfields : Samples.oddNames.read.map (fun item => item.fields.map Field.name) =
        .ok ["r#type", "_1", "r#in"] := by
      decide +kernel
    rw [hread] at hfields
    exact Except.ok.inj hfields
  have hfieldNames : ∀ f ∈ item.fields, IsFieldName f.name := by
    refine List.forall_mem_map.1 ?_
    rw [hnames]
    simp only [List.forall_mem_cons, List.not_mem_nil, false_implies, implies_true, and_true]
    exact ⟨.raw (by decide : Text.isAsciiWord "type"), .word (by decide),
      .raw (by decide : Text.isAsciiWord "in")⟩
  exact ⟨item, impl, record, hread, hexpand, hfieldNames,
    defaultColumns_of_expand hread hexpand hfieldNames⟩

/-- Of these three default columns, only the last one is an identifier. -/
theorem default_columns_of_oddNames :
    ∃ impl record, Samples.oddNames.expand .entity = .ok (some impl, record) ∧
      impl.decl.fields.map FieldMeta.column = ["r#type"] ∧
      impl.decl.associations.map AssociationMeta.joinColumn = ["1_id", "r_in_id"] ∧
      record.reads.map FieldRead.column = ["r#type", "1_id", "r_in_id"] ∧
      Ident.parseAlias "r#type" = .error (.badCharacter '#' "r#type") ∧
      Ident.parseAlias "1_id" = .error (.badCharacter '1' "1_id") ∧
      (Ident.parseAlias "r_in_id").isOk := by
  have hdescribes : Samples.oddNames.describesEntity := by decide +kernel
  obtain ⟨item, impl, record, -, -, hexpand, -⟩ := exists_of_describesEntity hdescribes
  have hcolumns : (Samples.oddNames.expand .entity).map
      (fun (impl?, record) =>
        (impl?.map fun impl =>
          (impl.decl.fields.map FieldMeta.column,
            impl.decl.associations.map AssociationMeta.joinColumn),
          record.reads.map FieldRead.column)) =
      .ok (some (["r#type"], ["1_id", "r_in_id"]), ["r#type", "1_id", "r_in_id"]) := by
    decide +kernel
  rw [hexpand] at hcolumns
  obtain ⟨hmetas, hreads⟩ := Prod.mk.inj (Except.ok.inj hcolumns)
  obtain ⟨hfields, hassociations⟩ := Prod.mk.inj (Option.some.inj hmetas)
  exact ⟨impl, record, hexpand, hfields, hassociations, hreads, by decide +kernel,
    by decide +kernel, by decide +kernel⟩

end EntityQuery.Derive
