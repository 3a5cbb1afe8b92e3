import EntityQuery.Derive.Evaluation
import EntityQuery.Proofs.Derive.Options
import EntityQuery.Proofs.Derive.TypeMeaning

namespace EntityQuery.Derive

/-! ### What is written at a field -/

namespace Field

/-- The entries of all attributes of a field. -/
def entries (f : Field) : List FieldEntry :=
  (allEntries readFieldEntry f.attributes).toOption.getD []

/-- Whether a field has an entry with the target of an association. -/
def isAssociation (f : Field) : Bool :=
  f.entries.any fun entry => entry.association?.isSome

/-- Whether a field is marked as a part of the identifier. -/
def isMarked (f : Field) : Bool :=
  decide (.id ∈ f.entries)

/-- The column that is given for a field, if there is one. The last entry counts. -/
def givenColumn? (f : Field) : Option String :=
  (f.entries.filterMap FieldEntry.column?).getLast?

/-- The type that is given for the values of a field, if there is one. The last entry counts. -/
def givenType? (f : Field) : Option String :=
  (f.entries.filterMap FieldEntry.fieldType?).getLast?

end Field

/-! ### What is read at a field -/

/-- What was read at a field is what is written there. -/
structure ReadsOptions (f : Field) (read : ReadField) : Prop where
  field : read.field = f
  isId : read.options.isId = f.isMarked
  column? : read.options.column? = f.givenColumn?
  association? : read.options.association?.isSome = f.isAssociation
  fieldType? : read.options.fieldType? = f.givenType?

/-- What was read at a field are its entries, with the last one of each kind. -/
theorem readsOptions_of_readOptions {f : Field} {read : ReadField} (h : f.readOptions = .ok read) :
    ReadsOptions f read := by
  obtain ⟨options, hoptions, rfl⟩ := map_eq_ok h
  rw [fieldOptions_eq] at hoptions
  obtain ⟨entries, hentries, rfl⟩ := map_eq_ok hoptions
  have hwritten : f.entries = entries := by
    rw [Field.entries, hentries]
    rfl
  have hreflects := FieldOptions.reflects_foldl_add entries
  refine ⟨rfl, ?_, ?_, ?_, ?_⟩
  · rw [Bool.eq_iff_iff, hreflects.isId, Field.isMarked, hwritten, decide_eq_true_iff]
  · rw [hreflects.column?, Field.givenColumn?, hwritten]
  · have hsome : (entries.filterMap FieldEntry.association?).getLast?.isSome ↔
        ∃ entry ∈ entries, entry.association?.isSome := by
      rw [List.getLast?_isSome, Ne, List.filterMap_eq_nil_iff]
      simp only [← Option.isSome_iff_ne_none, not_forall, exists_prop]
    rw [hreflects.association?, Field.isAssociation, hwritten, Bool.eq_iff_iff, hsome,
      List.any_eq_true]
  · rw [hreflects.fieldType?, Field.givenType?, hwritten]

/-! ### What the calls for a field build -/

variable {f : Field} {read : ReadField} {call : BuilderCall} {type : FieldType}

/-- A field is nullable exactly if its type is an option. -/
theorem ReadField.isNullable_iff : read.isNullable ↔ ∃ inner, IsOptionOf read.field.type inner := by
  simp only [isNullable, Option.isSome_iff_exists, optionInner?_eq_some_iff]

/-- The calls for a field build its description: what was given, and for a missing column the name
of the field. -/
theorem ReadField.eval_fieldChain (read : ReadField) (type : FieldType) :
    (read.fieldChain type).eval =
      { name := read.field.name
        type := type
        column := read.options.column?.getD read.field.name
        isId := read.options.isId
        nullable := read.isNullable } := by
  rw [FieldChain.eval, fieldChain]
  cases read.options.column? <;> cases read.options.isId <;> cases read.isNullable <;> rfl

/-- The calls for an association build its description. The table, the join column and the
referenced column that are not given are the defaults of a description. -/
theorem ReadField.eval_associationChain (read : ReadField) (target : String) :
    (read.associationChain target).eval =
      { name := read.field.name
        targetEntity := target
        targetTable := read.options.targetTable?.getD (Text.snakeCase target)
        joinColumn := read.options.column?.getD (Text.snakeCase read.field.name ++ "_id")
        referencedColumn := read.options.references?.getD "id"
        nullable := read.isNullable } := by
  rw [AssociationChain.eval, associationChain]
  cases read.options.targetTable? <;> cases read.options.column? <;>
    cases read.options.references? <;> cases read.isNullable <;> rfl

/-- A description of a field says what the declaration says: its name, whether its type is an
option, and whether it is marked. -/
structure DescribesField (f : Field) (field : FieldMeta) : Prop where
  name : field.name = f.name
  nullable : field.nullable ↔ ∃ inner, IsOptionOf f.type inner
  isId : field.isId = f.isMarked

structure DescribesAssociation (f : Field) (assoc : AssociationMeta) : Prop where
  name : assoc.name = f.name
  nullable : assoc.nullable ↔ ∃ inner, IsOptionOf f.type inner

/-- Two lists of pairs have the same values if they have them for the keys of both. -/
theorem lookup_eq_of_forall_keys {α β : Type} [BEq α] [LawfulBEq α] {l l' : List (α × β)}
    (h : ∀ k ∈ l.map Prod.fst ++ l'.map Prod.fst, l.lookup k = l'.lookup k) (k : α) :
    l.lookup k = l'.lookup k := by
  by_cases hk : k ∈ l.map Prod.fst ++ l'.map Prod.fst
  · exact h k hk
  · rw [List.mem_append, not_or] at hk
    have hnone : ∀ {m : List (α × β)}, k ∉ m.map Prod.fst → m.lookup k = none := by
      intro m hm
      rw [List.lookup_eq_none_iff]
      intro pair hpair
      exact bne_iff_ne.2 fun heq => hm (List.mem_map.2 ⟨pair, hpair, heq.symm⟩)
    rw [hnone hk.1, hnone hk.2]

/-- A value is found by its name in a list of values, or of the values with their names. -/
theorem lookup_map_key {α β : Type} [BEq β] [LawfulBEq β] (name : α → β) (l : List α) (k : β) :
    (l.map fun a => (name a, a)).lookup k = l.find? fun a => name a == k := by
  induction l with
  | nil => rfl
  | cons a l ih => rw [List.map_cons, List.lookup_cons, List.find?_cons, ih, BEq.comm]

/-- The derivation knows the words that the type of a field can be given with, and no others, and
understands them alike. -/
theorem typeOfWord?_eq_ofText? (text : String) : typeOfWord? text = FieldType.ofText? text := by
  have hnames : ∀ word, FieldType.ofName? word =
      (FieldType.all.map fun t => (t.name, t)).lookup word :=
    fun word => (lookup_map_key FieldType.name FieldType.all word).symm
  rw [typeOfWord?, FieldType.ofText?, hnames, ← List.lookup_append]
  exact lookup_eq_of_forall_keys (by decide +kernel) _

/-- The type for the values of a field: the given one, or the inferred one. -/
def TypeFor (f : Field) (type : FieldType) : Prop :=
  match f.givenType? with
  | some text => FieldType.ofText? text = some type
  | none => type = inferType f.type

/-- The type that a derivation puts into a description is the one that the runtime understands by
the given word. -/
theorem typeFor_of_fieldType (hread : ReadsOptions f read) (h : read.fieldType = .ok type) :
    TypeFor f type := by
  rw [TypeFor, ← hread.fieldType?]
  unfold ReadField.fieldType at h
  split at h
  · rename_i hnone
    rw [hnone]
    cases h
    exact hread.field ▸ rfl
  · rename_i text hsome
    rw [hsome]
    split at h
    · rename_i found hfound
      cases h
      exact (typeOfWord?_eq_ofText? text).symm.trans hfound
    · cases h

/-- What is derived for a field: a call that describes it, with the column from which it is read. -/
inductive Derived (f : Field) (read : ReadField) : BuilderCall → Prop
  | field {chain : FieldChain} (hkind : f.isAssociation = false)
      (hdescribes : DescribesField f chain.eval) (htype : TypeFor f chain.eval.type)
      (hcolumn : chain.eval.column = read.column) : Derived f read (.field chain)
  | association {chain : AssociationChain} (hkind : f.isAssociation = true)
      (hdescribes : DescribesAssociation f chain.eval)
      (hcolumn : chain.eval.joinColumn = read.column) : Derived f read (.association chain)

/-- The call that is made for a field describes what its attributes and its type say. -/
theorem derived_of_builderCall (hread : ReadsOptions f read) (h : read.builderCall = .ok call) :
    Derived f read call := by
  have hnullable : read.isNullable ↔ ∃ inner, IsOptionOf f.type inner :=
    hread.field ▸ ReadField.isNullable_iff
  have hname : read.field.name = f.name := congrArg Field.name hread.field
  unfold ReadField.builderCall at h
  split at h
  · rename_i target hassociation
    cases h
    have hkind : f.isAssociation = true := by
      rw [← hread.association?, hassociation]
      rfl
    refine .association hkind ?_ ?_
    · rw [read.eval_associationChain]
      exact ⟨hname, hnullable⟩
    · rw [read.eval_associationChain, ReadField.column, hassociation]
      cases read.options.column? <;> rfl
  · rename_i hassociation
    have hkind : f.isAssociation = false := by
      rw [← hread.association?, hassociation]
      rfl
    split at h
    · cases h
    · obtain ⟨type, htype, rfl⟩ := map_eq_ok h
      refine .field hkind ?_ ?_ ?_
      · rw [read.eval_fieldChain]
        exact ⟨hname, hnullable, hread.isId⟩
      · rw [read.eval_fieldChain]
        exact typeFor_of_fieldType hread htype
      · rw [read.eval_fieldChain, ReadField.column, hassociation]
        cases read.options.column? <;> rfl

/-- Both the options and the call come from the field itself. -/
theorem derived_of_describe (h : Item.describe f = .ok (read, call)) :
    ReadsOptions f read ∧ Derived f read call := by
  obtain ⟨found, hfound, h⟩ := bind_eq_ok h
  obtain ⟨made, hmade, h⟩ := bind_eq_ok h
  cases h
  have hread := readsOptions_of_readOptions hfound
  exact ⟨hread, derived_of_builderCall hread hmade⟩

end EntityQuery.Derive
