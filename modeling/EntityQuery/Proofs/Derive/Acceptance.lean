import EntityQuery.Proofs.Derive.Agreement
import EntityQuery.Proofs.Ident.SnakeCase

namespace EntityQuery.Derive

/-! ### What is written at a declaration -/

namespace Item

variable (item : Item)

/-- The entries of all attributes of a declaration. -/
def entries : List StructEntry :=
  (allEntries readStructEntry item.attributes).toOption.getD []

/-- The table that is given for an entity, if there is one. The last entry counts. -/
def givenTable? : Option String :=
  (item.entries.filterMap StructEntry.table?).getLast?

/-- The table of an entity can be named: the given one is an identifier, or there is none and the
name of the entity is a word in snake case. -/
def NamesTable : Prop :=
  match item.givenTable? with
  | some table => ∃ parts, Ident.IsReading table parts
  | none => Ident.IsWordInSnakeCase (shortNameOf item.name)

/-- A declaration that describes an entity: it has a name, a table that can be named, and no two
fields of one name. -/
structure IsDescribable : Prop where
  name_ne_empty : item.name ≠ ""
  namesTable : item.NamesTable
  names_nodup : (item.fields.map Field.name).Nodup

end Item

/-! ### The declaration that the calls make -/

variable {item : Item} {impl : EntityImpl} {record : RecordImpl}

/-- Only a table that is given and an alias that is a word are read. -/
theorem readStructOptions_ok {options : StructOptions} (h : item.readStructOptions = .ok options) :
    options.table? = item.givenTable? ∧ ∀ a ∈ options.alias?, Text.isAsciiWord a := by
  obtain ⟨found, hfound, h⟩ := bind_eq_ok h
  rw [structOptions_eq] at hfound
  obtain ⟨entries, hentries, rfl⟩ := map_eq_ok hfound
  have hwritten : item.entries = entries := by
    rw [Item.entries, hentries]
    rfl
  have htable : (entries.foldl StructOptions.add {}).table? = item.givenTable? := by
    rw [(StructOptions.reflects_foldl_add entries).table?, Item.givenTable?, hwritten]
  split at h
  · rename_i hnone
    cases h
    refine ⟨htable, fun a ha => ?_⟩
    rw [hnone] at ha
    cases ha
  · rename_i name hsome
    split at h
    · rename_i hword
      cases h
      refine ⟨htable, fun a ha => ?_⟩
      rw [hsome] at ha
      cases ha
      exact hword
    · cases h

/-- The calls for fields leave everything else as it is. -/
theorem foldl_apply_of_derived {α : Type} (view : EntityDecl → α)
    (hfield : ∀ decl chain, view (BuilderCall.apply decl (.field chain)) = view decl)
    (hassociation : ∀ decl chain, view (BuilderCall.apply decl (.association chain)) = view decl)
    {calls : List BuilderCall} (h : ∀ call ∈ calls, ∃ f read, Derived f read call)
    (decl : EntityDecl) : view (calls.foldl BuilderCall.apply decl) = view decl := by
  induction calls generalizing decl with
  | nil => rfl
  | cons call rest ih =>
    obtain ⟨f, read, hderived⟩ := h call List.mem_cons_self
    rw [List.foldl_cons, ih fun call hcall => h call (List.mem_cons_of_mem _ hcall)]
    cases hderived with
    | field => exact hfield _ _
    | association => exact hassociation _ _

/-- The declaration that the derived calls make. -/
structure Declares (item : Item) (decl : EntityDecl) : Prop where
  name : decl.name = item.name
  table? : decl.table? = item.givenTable?
  alias_isWord : ∀ a ∈ decl.alias?, Text.isAsciiWord a
  names : (declaredNames decl.fields decl.associations).Perm (item.fields.map Field.name)

/-- Related rows have the same values if related items have. -/
theorem map_eq_map_of_forall₂ {α β γ : Type} {R : α → β → Prop} {f : α → γ} {g : β → γ}
    {as : List α} {bs : List β} (h : List.Forall₂ R as bs) (hsame : ∀ a b, R a b → g b = f a) :
    bs.map g = as.map f := by
  have hmapped : List.Forall₂ (fun a b => a = b) (as.map f) (bs.map g) :=
    List.rel_map (fun a b hab => (hsame a b hab).symm) h
  rw [List.forall₂_eq_eq_eq] at hmapped
  exact hmapped.symm

/-- A description declares the names of the item's fields, associations behind the others. -/
theorem declaredNames_perm {described : List (ReadField × BuilderCall)}
    (h : DerivesFrom item.fields impl record described) :
    (declaredNames impl.decl.fields impl.decl.associations).Perm
      (item.fields.map Field.name) := by
  have hfields : impl.decl.fields.map FieldMeta.name =
      (item.fields.filter fun f => !f.isAssociation).map Field.name :=
    map_eq_map_of_forall₂ h.forall₂_fields fun _ _ hdescribes => hdescribes.1.name
  have hassociations : impl.decl.associations.map AssociationMeta.name =
      (item.fields.filter Field.isAssociation).map Field.name :=
    map_eq_map_of_forall₂ h.forall₂_associations fun _ _ hdescribes => hdescribes.name
  have hsplit := List.filter_append_perm (fun f => !f.isAssociation) item.fields
  simp only [Bool.not_not] at hsplit
  rw [declaredNames, hfields, hassociations, ← List.map_append]
  exact hsplit.map Field.name

/-- What is derived from an item declares its name, its table, its alias and its fields as the item
has them. -/
theorem declares_of_deriveEntity (h : item.deriveEntity = .ok (impl, record)) :
    Declares item impl.decl := by
  obtain ⟨_, hderives⟩ := exists_derivesFrom h
  have hnames := declaredNames_perm hderives
  unfold Item.deriveEntity at h
  split at h
  · cases h
  · obtain ⟨options, hoptions, h⟩ := bind_eq_ok h
    obtain ⟨fields, -, h⟩ := bind_eq_ok h
    obtain ⟨described, hdescribed, h⟩ := bind_eq_ok h
    obtain ⟨htable, halias⟩ := readStructOptions_ok hoptions
    have hcalls : ∀ call ∈ described.map Prod.snd, ∃ f read, Derived f read call := by
      intro call hcall
      obtain ⟨found, hfound, rfl⟩ := List.mem_map.1 hcall
      obtain ⟨f, -, hderived⟩ := exists_of_mem_right (forall₂_of_mapM_ok hdescribed) hfound
      exact ⟨f, found.1, (derived_of_describe hderived).2⟩
    -- A view that no field and no association changes is that of the declaration with the options
    -- alone.
    have hkept {α : Type} (view : EntityDecl → α)
        (hfield : ∀ decl chain, view (BuilderCall.apply decl (.field chain)) = view decl)
        (hassociation : ∀ decl chain,
          view (BuilderCall.apply decl (.association chain)) = view decl) :
        view impl.decl =
          view { name := item.name, table? := options.table?, alias? := options.alias? } := by
      cases h
      rw [EntityImpl.decl, List.foldl_append,
        foldl_apply_of_derived view hfield hassociation hcalls]
      cases options.table? <;> cases options.alias? <;> rfl
    refine ⟨?_, ?_, ?_, hnames⟩
    · exact hkept EntityDecl.name (fun _ _ => rfl) fun _ _ => rfl
    · exact (hkept EntityDecl.table? (fun _ _ => rfl) fun _ _ => rfl).trans htable
    · rw [hkept EntityDecl.alias? (fun _ _ => rfl) fun _ _ => rfl]
      exact halias

/-- A declaration of the calls passes its checks exactly if the item that it is derived from is
describable. -/
theorem isOk_build_iff_of_declares {decl : EntityDecl} (h : Declares item decl) :
    decl.build.isOk ↔ item.IsDescribable := by
  have halias : ∀ a ∈ decl.alias?, (Ident.parseAlias a).isOk :=
    fun a ha => Ident.isOk_parseAlias_of_isAsciiWord (h.alias_isWord a ha)
  have htable : (Ident.parse decl.table).isOk ↔ item.NamesTable := by
    rw [EntityDecl.table, h.table?, h.name, Item.NamesTable]
    cases item.givenTable? with
    | none => exact Ident.isOk_parse_snakeCase_iff
    | some table => exact Ident.isOk_parse_iff_exists_reading
  rw [EntityDecl.isOk_build_iff, htable, h.name, h.names.nodup_iff]
  constructor
  · rintro ⟨hname, htable, -, hnodup⟩
    exact ⟨hname, htable, hnodup⟩
  · rintro ⟨hname, htable, hnodup⟩
    exact ⟨hname, htable, halias, hnodup⟩

/-- What is derived from an accepted declaration describes an entity exactly if its table can be
named and no two of its fields have one name. -/
theorem isOk_eval_iff {source : ItemSource} (hread : source.read = .ok item)
    (hexpand : source.expand .entity = .ok (some impl, record)) :
    impl.eval.isOk ↔ item.IsDescribable := by
  have hderive : item.deriveEntity = .ok (impl, record) := by
    obtain ⟨item', hitem, hexpand⟩ := bind_eq_ok hexpand
    rw [hread] at hitem
    cases hitem
    obtain ⟨⟨impl', record'⟩, hderive, h⟩ := bind_eq_ok hexpand
    cases h
    exact hderive
  exact isOk_build_iff_of_declares (declares_of_deriveEntity hderive)

/-- An order, whose table is given. -/
theorem isOk_eval_iff_order :
    ∃ item impl record, Samples.order.read = .ok item ∧
      Samples.order.expand .entity = .ok (some impl, record) ∧
      impl.eval.isOk ∧ item.IsDescribable := by
  have hdescribes : Samples.order.describesEntity := by decide +kernel
  obtain ⟨item, impl, record, m, hread, hexpand, heval⟩ := exists_of_describesEntity hdescribes
  have hok : impl.eval.isOk := by
    rw [heval]
    rfl
  exact ⟨item, impl, record, hread, hexpand, hok, (isOk_eval_iff hread hexpand).1 hok⟩

/-- A document in a table whose name has a blank. -/
def Samples.spacedTable : ItemSource where
  name := "Doc"
  attributes := ["orm(table = \"my table\")"]
  fields := [⟨"id", "i64", []⟩]

/-- The description of a document in such a table is derived, and refused when it is evaluated. -/
theorem refuses_spacedTable :
    ∃ impl record, Samples.spacedTable.expand .entity = .ok (some impl, record) ∧
      impl.eval = .error (.badName "Doc" (.badCharacter ' ' "my table")) := by
  refine ⟨⟨"Doc", [.table "my table", .field ⟨"id", .bigInt, []⟩]⟩,
    ⟨"Doc", [], [], [⟨"id", (tokens? "i64").getD [], "id"⟩]⟩, ?_, ?_⟩
  · decide +kernel
  · decide +kernel

end EntityQuery.Derive
