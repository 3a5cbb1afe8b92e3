import EntityQuery.Proofs.Derive.Options

namespace EntityQuery.Derive

variable {ε ω : Type}

/-! ### Attributes with other names -/

/-- Whether an attribute has the name that is meant for the derivation, which is no path. -/
def isOwn : List Token → Bool
  | ⟨.word, _⟩ :: ⟨.mark ':', _⟩ :: _ => false
  | ⟨.word, name⟩ :: _ => name == attributeName
  | _ => false

theorem argumentsOf?_of_not_isOwn {tokens : List Token} (h : isOwn tokens = false) :
    argumentsOf? tokens = .ok none := by
  unfold isOwn at h
  split at h
  · rw [argumentsOf?]
    split_ifs <;> rfl
  · exact if_neg (by simpa using h)
  · rename_i hnot
    unfold argumentsOf?
    split
    · exact absurd rfl (hnot _ _)
    · rfl

/-- An attribute of another name has no entries, and whatever stands in it is no fault. -/
theorem entriesOf_of_not_isOwn {readEntry : List Token → Except Fault (ε × List Token)}
    {tokens : List Token} (h : isOwn tokens = false) : entriesOf readEntry tokens = .ok [] := by
  rw [entriesOf, argumentsOf?_of_not_isOwn h]
  rfl

/-- So it makes no difference where such attributes stand. -/
theorem allEntries_filter_isOwn (readEntry : List Token → Except Fault (ε × List Token))
    (attributes : List (List Token)) :
    allEntries readEntry (attributes.filter isOwn) = allEntries readEntry attributes := by
  induction attributes with
  | nil => rfl
  | cons tokens rest ih =>
    cases hown : isOwn tokens with
    | true => rw [List.filter_cons_of_pos hown, allEntries_cons, allEntries_cons, ih]
    | false =>
      rw [List.filter_cons_of_neg (by simp [hown]), ih, allEntries_cons,
        entriesOf_of_not_isOwn hown]
      cases allEntries readEntry rest <;> rfl

/-- The entries of attributes of which each can be read. -/
theorem exists_allEntries {readEntry : List Token → Except Fault (ε × List Token)}
    {attributes : List (List Token)}
    (h : ∀ tokens ∈ attributes, (entriesOf readEntry tokens).isOk) :
    ∃ entries, allEntries readEntry attributes = .ok entries := by
  induction attributes with
  | nil => exact ⟨[], rfl⟩
  | cons tokens rest ih =>
    obtain ⟨more, hmore⟩ := ih fun other hother => h other (List.mem_cons_of_mem _ hother)
    have hfirst := h tokens List.mem_cons_self
    rw [allEntries_cons, hmore]
    cases hentries : entriesOf readEntry tokens with
    | error fault =>
      rw [hentries] at hfirst
      cases hfirst
    | ok entries => exact ⟨entries ++ more, rfl⟩

/-! ### One attribute with all entries -/

/-- A key with its text, in some quotes. -/
def keyedTokens (quote : String → String) (key value : String) : List Token :=
  [⟨.word, key⟩, .ofMark '=', ⟨.text value, quote value⟩]

def StructEntry.tokens (quote : String → String) : StructEntry → List Token
  | table name => keyedTokens quote "table" name
  | entityAlias name => keyedTokens quote "alias" name

def FieldEntry.tokens (quote : String → String) : FieldEntry → List Token
  | id => [⟨.word, "id"⟩]
  | column name => keyedTokens quote "column" name
  | fieldType name => keyedTokens quote "field_type" name
  | association target => keyedTokens quote "association" target
  | targetTable name => keyedTokens quote "target_table" name
  | references name => keyedTokens quote "references" name

/-- Tokens for entries from which the entries are read, whatever stands behind them. -/
structure WritesEntries (readEntry : List Token → Except Fault (ε × List Token))
    (tokens : ε → List Token) : Prop where
  readEntry_append : ∀ entry rest, readEntry (tokens entry ++ rest) = .ok (entry, rest)
  ne_nil : ∀ entry, tokens entry ≠ []

/-- An entry of an item is read from its tokens, in front of a comma and at the end. How its text is
quoted does not count. -/
theorem StructEntry.writesEntries (quote : String → String) :
    WritesEntries readStructEntry (StructEntry.tokens quote) where
  readEntry_append entry _ := by cases entry <;> rfl
  ne_nil entry := by cases entry <;> exact List.cons_ne_nil _ _

theorem FieldEntry.writesEntries (quote : String → String) :
    WritesEntries readFieldEntry (FieldEntry.tokens quote) where
  readEntry_append entry _ := by cases entry <;> rfl
  ne_nil entry := by cases entry <;> exact List.cons_ne_nil _ _

/-- Entries with commas between them. -/
def listed (tokens : ε → List Token) (entries : List ε) : List Token :=
  [Token.ofMark ','].intercalate (entries.map tokens)

/-- An attribute for the derivation with what stands in its parentheses. -/
def attributeOf (inside : List Token) : List Token :=
  ⟨.word, attributeName⟩ :: .ofMark '(' :: (inside ++ [.ofMark ')'])

/-- The entries of an attribute are those between its parentheses. -/
theorem entriesOf_attributeOf (readEntry : List Token → Except Fault (ε × List Token))
    (inside : List Token) :
    entriesOf readEntry (attributeOf inside) = readEntries readEntry inside := by
  have harguments : argumentsOf? (attributeOf inside) = .ok (some inside) := by
    change Except.ok (some (inside ++ [Token.ofMark ')']).dropLast) = _
    rw [List.dropLast_concat]
  rw [entriesOf, harguments]
  rfl

section Listed

variable {readEntry : List Token → Except Fault (ε × List Token)} {tokens : ε → List Token}

theorem listed_singleton (tokens : ε → List Token) (entry : ε) :
    listed tokens [entry] = tokens entry := by
  simp [listed, List.intercalate]

theorem listed_cons_cons (tokens : ε → List Token) (first second : ε) (rest : List ε) :
    listed tokens (first :: second :: rest) =
      tokens first ++ .ofMark ',' :: listed tokens (second :: rest) := by
  simp [listed, List.intercalate]

theorem readEntries_nil : readEntries readEntry [] = .ok [] := by
  rw [readEntries]
  rfl

/-- The last entry needs no comma behind it. -/
theorem WritesEntries.readEntries_last (h : WritesEntries readEntry tokens) (entry : ε) :
    readEntries readEntry (tokens entry) = .ok [entry] := by
  have hread := h.readEntry_append entry []
  rw [List.append_nil] at hread
  rw [readEntries, if_neg (by simp [h.ne_nil]), hread]

/-- A comma behind an entry goes on with the others, of which there may be none. -/
theorem WritesEntries.readEntries_comma (h : WritesEntries readEntry tokens) (entry : ε)
    (rest : List Token) :
    readEntries readEntry (tokens entry ++ .ofMark ',' :: rest) =
      (readEntries readEntry rest).map (entry :: ·) := by
  have hlength : rest.length < (tokens entry ++ Token.ofMark ',' :: rest).length := by
    simp only [List.length_append, List.length_cons]
    omega
  rw [readEntries, if_neg (by simp), h.readEntry_append]
  exact if_pos hlength

/-- What may stand behind one entry may stand behind a list of them. -/
theorem WritesEntries.readEntries_listed_append (h : WritesEntries readEntry tokens)
    {ending : List Token}
    (hending : ∀ entry, readEntries readEntry (tokens entry ++ ending) = .ok [entry])
    {entries : List ε} (hne : entries ≠ []) :
    readEntries readEntry (listed tokens entries ++ ending) = .ok entries := by
  induction entries with
  | nil => exact absurd rfl hne
  | cons first rest ih =>
    cases rest with
    | nil =>
      rw [listed_singleton]
      exact hending first
    | cons second rest =>
      rw [listed_cons_cons, List.append_assoc, List.cons_append, h.readEntries_comma,
        ih (List.cons_ne_nil _ _)]
      rfl

/-- Entries that are listed with commas between them are read again. -/
theorem WritesEntries.readEntries_listed (h : WritesEntries readEntry tokens) (entries : List ε) :
    readEntries readEntry (listed tokens entries) = .ok entries := by
  by_cases hempty : entries = []
  · rw [hempty]
    exact readEntries_nil
  · have hlast : ∀ entry, readEntries readEntry (tokens entry ++ []) = .ok [entry] := by
      intro entry
      rw [List.append_nil]
      exact h.readEntries_last entry
    have hlisted := h.readEntries_listed_append hlast hempty
    rwa [List.append_nil] at hlisted

/-- A comma behind the last entry changes nothing. -/
theorem WritesEntries.readEntries_listed_comma (h : WritesEntries readEntry tokens)
    {entries : List ε} (hne : entries ≠ []) :
    readEntries readEntry (listed tokens entries ++ [.ofMark ',']) = .ok entries := by
  refine h.readEntries_listed_append (fun entry => ?_) hne
  rw [h.readEntries_comma, readEntries_nil]
  rfl

end Listed

/-! ### What attributes say together -/

/-- What the attributes of an item say together, when `entries` are all entries of all of them in
the order of the source. -/
structure MergesTo (options : List (List Token) → Except Fault ω)
    (readEntry : List Token → Except Fault (ε × List Token))
    (tokens : (String → String) → ε → List Token) (Reflects : ω → List ε → Prop)
    (attributes : List (List Token)) (entries : List ε) (merged : ω) : Prop where
  options_eq : options attributes = .ok merged
  /-- It is what the entries say in a row. -/
  reflects : Reflects merged entries
  /-- One attribute with all entries says the same. -/
  single : ∀ quote, options [attributeOf (listed (tokens quote) entries)] = .ok merged
  /-- A comma may stand behind the last entry. -/
  single_comma : ∀ quote, entries ≠ [] →
    options [attributeOf (listed (tokens quote) entries ++ [.ofMark ','])] = .ok merged
  /-- So do all other attributes with the same entries in a row. -/
  others : ∀ others, allEntries readEntry others = .ok entries → options others = .ok merged
  /-- Attributes with other names do not count. -/
  own : options (attributes.filter isOwn) = .ok merged

/-- If every attribute is read, their options together are those of one attribute with all the
entries. This only needs that options are merged by the rule by which entries are added, and so it
is proved for items and fields at once. -/
theorem OptionReader.IsLawful.mergesTo_of_isOk {reader : OptionReader ε ω}
    (h : reader.IsLawful) {tokens : (String → String) → ε → List Token}
    (htokens : ∀ quote, WritesEntries reader.readEntry (tokens quote))
    {Reflects : ω → List ε → Prop}
    (hreflects : ∀ entries, Reflects (entries.foldl reader.add reader.unset) entries)
    {attributes : List (List Token)}
    (hread : ∀ a ∈ attributes, (entriesOf reader.readEntry a).isOk) :
    ∃ entries merged, allEntries reader.readEntry attributes = .ok entries ∧
      MergesTo reader.read reader.readEntry tokens Reflects attributes entries merged := by
  obtain ⟨entries, hentries⟩ := exists_allEntries hread
  have hothers : ∀ others, allEntries reader.readEntry others = .ok entries →
      reader.read others = .ok (entries.foldl reader.add reader.unset) := by
    intro others hothers
    rw [h.read_eq_map_allEntries, hothers]
    rfl
  have hsingle : ∀ inside, readEntries reader.readEntry inside = .ok entries →
      reader.read [attributeOf inside] = .ok (entries.foldl reader.add reader.unset) := by
    intro inside hinside
    apply hothers
    rw [allEntries_cons, entriesOf_attributeOf, hinside]
    exact congrArg Except.ok entries.append_nil
  refine ⟨entries, _, hentries, hothers attributes hentries, hreflects entries, ?_, ?_, hothers, ?_⟩
  · exact fun quote => hsingle _ ((htokens quote).readEntries_listed entries)
  · exact fun quote hne => hsingle _ ((htokens quote).readEntries_listed_comma hne)
  · exact hothers _ ((allEntries_filter_isOwn _ _).trans hentries)

/-- The attributes of a field, and those of a struct, of which each can be read: what they say
together is what their entries say in a row, however the entries are split over attributes. -/
theorem exists_mergesTo (attributes : List (List Token)) :
    ((∀ a ∈ attributes, (entriesOf readFieldEntry a).isOk) →
      ∃ entries merged, allEntries readFieldEntry attributes = .ok entries ∧
        MergesTo fieldOptions readFieldEntry FieldEntry.tokens FieldOptions.Reflects
          attributes entries merged) ∧
    ((∀ a ∈ attributes, (entriesOf readStructEntry a).isOk) →
      ∃ entries merged, allEntries readStructEntry attributes = .ok entries ∧
        MergesTo structOptions readStructEntry StructEntry.tokens StructOptions.Reflects
          attributes entries merged) :=
  ⟨OptionReader.isLawful_fieldReader.mergesTo_of_isOk FieldEntry.writesEntries
      FieldOptions.reflects_foldl_add,
    OptionReader.isLawful_structReader.mergesTo_of_isOk StructEntry.writesEntries
      StructOptions.reflects_foldl_add⟩

/-- Attributes of a field: a mark, one with another name, two keys with a comma behind them, and one
of the keys again. -/
def Samples.splitField : List (List Token) :=
  ["orm(id)", "serde(default)", "orm(column = \"order_id\", field_type = \"bigint\",)",
    "orm(column = r\"oid\")"].filterMap tokens?

/-- Attributes of a struct: a table, an alias, and another table. -/
def Samples.splitStruct : List (List Token) :=
  ["orm(table = \"orders\")", "orm(alias = \"o\", table = \"sales\")"].filterMap tokens?

/-- The key that is given twice is what it is given last. -/
theorem exists_mergesTo_split :
    ((∀ a ∈ Samples.splitField, (entriesOf readFieldEntry a).isOk) ∧
      ∃ entries merged, MergesTo fieldOptions readFieldEntry FieldEntry.tokens
        FieldOptions.Reflects Samples.splitField entries merged ∧
        merged = { isId := true, column? := some "oid", fieldType? := some "bigint" }) ∧
    ((∀ a ∈ Samples.splitStruct, (entriesOf readStructEntry a).isOk) ∧
      ∃ entries merged, MergesTo structOptions readStructEntry StructEntry.tokens
        StructOptions.Reflects Samples.splitStruct entries merged ∧
        merged = { table? := some "sales", alias? := some "o" }) := by
  have hfield : ∀ a ∈ Samples.splitField, (entriesOf readFieldEntry a).isOk := by
    decide +kernel
  have hstruct : ∀ a ∈ Samples.splitStruct, (entriesOf readStructEntry a).isOk := by
    decide +kernel
  have hfieldOptions : fieldOptions Samples.splitField =
      .ok { isId := true, column? := some "oid", fieldType? := some "bigint" } := by
    decide +kernel
  have hstructOptions : structOptions Samples.splitStruct =
      .ok { table? := some "sales", alias? := some "o" } := by
    decide +kernel
  obtain ⟨entries, merged, -, h⟩ := (exists_mergesTo Samples.splitField).1 hfield
  obtain ⟨entries', merged', -, h'⟩ := (exists_mergesTo Samples.splitStruct).2 hstruct
  exact ⟨⟨hfield, entries, merged, h, Except.ok.inj (h.options_eq.symm.trans hfieldOptions)⟩,
    hstruct, entries', merged', h', Except.ok.inj (h'.options_eq.symm.trans hstructOptions)⟩

end EntityQuery.Derive
