import EntityQuery.Derive.Attribute
import EntityQuery.Proofs.Results

namespace EntityQuery.Derive

variable {ε ω : Type}

/-- The entries of an attribute, which are none if it has another name. -/
def entriesOf (readEntry : List Token → Except Fault (ε × List Token)) (tokens : List Token) :
    Except Fault (List ε) := do
  match ← argumentsOf? tokens with
  | none => return []
  | some arguments => readEntries readEntry arguments

/-- The entries of all attributes of an item, in the order of the source. -/
def allEntries (readEntry : List Token → Except Fault (ε × List Token))
    (attributes : List (List Token)) : Except Fault (List ε) := do
  return (← attributes.mapM (entriesOf readEntry)).flatten

theorem allEntries_cons (readEntry : List Token → Except Fault (ε × List Token))
    (tokens : List Token) (rest : List (List Token)) :
    allEntries readEntry (tokens :: rest) = (do
      let entries ← entriesOf readEntry tokens
      (allEntries readEntry rest).map (entries ++ ·)) := by
  rw [allEntries, List.mapM_cons]
  cases entriesOf readEntry tokens with
  | error fault => rfl
  | ok entries =>
    rw [allEntries]
    cases rest.mapM (entriesOf readEntry) with
    | error fault => rfl
    | ok rows => rfl

namespace OptionReader

/-- Merging follows the rule by which entries are added: an attribute without entries says nothing,
and an entry behind others adds the same before and after merging. -/
structure IsLawful (reader : OptionReader ε ω) : Prop where
  merge_unset : ∀ options, reader.merge options reader.unset = options
  merge_add : ∀ options later entry,
    reader.merge options (reader.add later entry) = reader.add (reader.merge options later) entry

variable {reader : OptionReader ε ω}

/-- Entries may be added before or after the options of an earlier attribute are merged in. -/
theorem IsLawful.merge_foldl_add (h : reader.IsLawful) (options later : ω) (entries : List ε) :
    reader.merge options (entries.foldl reader.add later) =
      entries.foldl reader.add (reader.merge options later) := by
  induction entries generalizing later with
  | nil => rfl
  | cons entry rest ih => rw [List.foldl_cons, ih, h.merge_add, List.foldl_cons]

/-- One more attribute adds its entries. -/
theorem IsLawful.readAttribute_eq (h : reader.IsLawful) (options : ω) (tokens : List Token) :
    reader.readAttribute options tokens =
      (entriesOf reader.readEntry tokens).map fun entries => entries.foldl reader.add options := by
  rw [readAttribute, entriesOf]
  cases argumentsOf? tokens with
  | error fault => rfl
  | ok arguments? =>
    cases arguments? with
    | none => rfl
    | some arguments =>
      have hmerge (entries : List ε) :
          reader.merge options (entries.foldl reader.add reader.unset) =
            entries.foldl reader.add options := by
        rw [h.merge_foldl_add, h.merge_unset]
      change (do return reader.merge options (← reader.readArguments arguments)) =
        (readEntries reader.readEntry arguments).map fun entries => entries.foldl reader.add options
      rw [readArguments]
      cases readEntries reader.readEntry arguments with
      | error fault => rfl
      | ok entries => exact congrArg Except.ok (hmerge entries)

/-- The attributes of an item say what all their entries say, one after the other. -/
theorem IsLawful.read_eq_map_allEntries (h : reader.IsLawful) (attributes : List (List Token)) :
    reader.read attributes =
      (allEntries reader.readEntry attributes).map fun entries =>
        entries.foldl reader.add reader.unset := by
  rw [read]
  generalize reader.unset = options
  induction attributes generalizing options with
  | nil => rfl
  | cons tokens rest ih =>
    rw [List.foldlM_cons, h.readAttribute_eq, allEntries_cons]
    cases entriesOf reader.readEntry tokens with
    | error fault => rfl
    | ok entries =>
      refine (ih _).trans ?_
      cases allEntries reader.readEntry rest with
      | error fault => rfl
      | ok more => exact congrArg Except.ok List.foldl_append.symm

/-- The options of an item are merged by the rule by which entries are added. -/
theorem isLawful_structReader : structReader.IsLawful where
  merge_unset _ := rfl
  merge_add _ _ entry := by cases entry <;> rfl

/-- So are those of a field. -/
theorem isLawful_fieldReader : fieldReader.IsLawful where
  merge_unset options := by
    obtain ⟨isId, _, _, _, _, _⟩ := options
    cases isId <;> rfl
  merge_add options _ entry := by
    obtain ⟨isId, _, _, _, _, _⟩ := options
    cases entry <;> cases isId <;> rfl

end OptionReader

/-- The options of an item are its entries, added one after another, in whichever attributes they
stand. -/
theorem structOptions_eq (attributes : List (List Token)) :
    structOptions attributes = (allEntries readStructEntry attributes).map fun entries =>
      entries.foldl StructOptions.add {} :=
  OptionReader.isLawful_structReader.read_eq_map_allEntries attributes

theorem fieldOptions_eq (attributes : List (List Token)) :
    fieldOptions attributes = (allEntries readFieldEntry attributes).map fun entries =>
      entries.foldl FieldOptions.add {} :=
  OptionReader.isLawful_fieldReader.read_eq_map_allEntries attributes

/-! ### What the options say -/

section Reflects

/-- Of the entries with one key the last one counts. -/
theorem foldl_add {add : ω → ε → ω} {view : ω → Option String} {pick : ε → Option String}
    (hadd : ∀ options entry, view (add options entry) = (pick entry).or (view options))
    (entries : List ε) (options : ω) :
    view (entries.foldl add options) = (entries.filterMap pick).getLast?.or (view options) := by
  induction entries generalizing options with
  | nil => rfl
  | cons entry rest ih =>
    rw [List.foldl_cons, ih, hadd, List.filterMap_cons]
    cases pick entry with
    | none => rfl
    | some found =>
      rw [List.getLast?_cons]
      cases (rest.filterMap pick).getLast? <;> rfl

/-- An option that nothing is said about in front of the entries. -/
theorem foldl_add_of_none {add : ω → ε → ω} {view : ω → Option String} {pick : ε → Option String}
    (hadd : ∀ options entry, view (add options entry) = (pick entry).or (view options))
    (entries : List ε) {options : ω} (hnone : view options = none) :
    view (entries.foldl add options) = (entries.filterMap pick).getLast? := by
  rw [foldl_add hadd, hnone, Option.or_none]

def StructEntry.table? : StructEntry → Option String
  | table name => some name
  | _ => none

def StructEntry.alias? : StructEntry → Option String
  | entityAlias name => some name
  | _ => none

/-- The options of a struct reflect a row of entries: they are what the last entry with a key
gives. -/
structure StructOptions.Reflects (options : StructOptions) (entries : List StructEntry) : Prop where
  table? : options.table? = (entries.filterMap StructEntry.table?).getLast?
  alias? : options.alias? = (entries.filterMap StructEntry.alias?).getLast?

/-- Of each kind of entry the last one counts. -/
theorem StructOptions.reflects_foldl_add (entries : List StructEntry) :
    StructOptions.Reflects (entries.foldl StructOptions.add {}) entries where
  table? := foldl_add_of_none (fun _ entry => by cases entry <;> rfl) entries rfl
  alias? := foldl_add_of_none (fun _ entry => by cases entry <;> rfl) entries rfl

def FieldEntry.column? : FieldEntry → Option String
  | column name => some name
  | _ => none

def FieldEntry.fieldType? : FieldEntry → Option String
  | fieldType name => some name
  | _ => none

def FieldEntry.association? : FieldEntry → Option String
  | association target => some target
  | _ => none

def FieldEntry.targetTable? : FieldEntry → Option String
  | targetTable name => some name
  | _ => none

def FieldEntry.references? : FieldEntry → Option String
  | references name => some name
  | _ => none

/-- The options of a field reflect a row of entries: it is marked if one of them is the mark,
and has what the last entry with a key gives. -/
structure FieldOptions.Reflects (options : FieldOptions) (entries : List FieldEntry) : Prop where
  isId : options.isId ↔ .id ∈ entries
  column? : options.column? = (entries.filterMap FieldEntry.column?).getLast?
  fieldType? : options.fieldType? = (entries.filterMap FieldEntry.fieldType?).getLast?
  association? : options.association? = (entries.filterMap FieldEntry.association?).getLast?
  targetTable? : options.targetTable? = (entries.filterMap FieldEntry.targetTable?).getLast?
  references? : options.references? = (entries.filterMap FieldEntry.references?).getLast?

/-- A mark counts wherever it stands, and is not taken back. -/
theorem isId_foldl_add (entries : List FieldEntry) (options : FieldOptions) :
    (entries.foldl FieldOptions.add options).isId =
      (options.isId || decide (.id ∈ entries)) := by
  induction entries generalizing options with
  | nil => simp
  | cons entry rest ih =>
    rw [List.foldl_cons, ih]
    cases entry <;> simp [FieldOptions.add]

/-- Of each kind of entry the last one counts, and a mark counts wherever it stands. -/
theorem FieldOptions.reflects_foldl_add (entries : List FieldEntry) :
    FieldOptions.Reflects (entries.foldl FieldOptions.add {}) entries where
  isId := by
    rw [isId_foldl_add, Bool.false_or, decide_eq_true_iff]
  column? := foldl_add_of_none (fun _ entry => by cases entry <;> rfl) entries rfl
  fieldType? := foldl_add_of_none (fun _ entry => by cases entry <;> rfl) entries rfl
  association? := foldl_add_of_none (fun _ entry => by cases entry <;> rfl) entries rfl
  targetTable? := foldl_add_of_none (fun _ entry => by cases entry <;> rfl) entries rfl
  references? := foldl_add_of_none (fun _ entry => by cases entry <;> rfl) entries rfl

end Reflects

end EntityQuery.Derive
