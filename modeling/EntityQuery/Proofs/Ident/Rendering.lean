import EntityQuery.Proofs.Ident.Table

namespace EntityQuery

namespace Ident

/-- The name that a part denotes in the database: a word is folded to lower case, and a quoted name
is taken as it is. -/
def Part.denoted : Part → String
  | unquoted text => Text.asciiLower text
  | quoted name => name

/-- The part that is read where a part was rendered. -/
def Part.written : Part → Part
  | unquoted word => if isReserved word then quoted (Text.asciiLower word) else unquoted word
  | quoted name => quoted name

/-- The second identifier names what the first one names, and needs no quotes beyond its own: it has
as many parts, which denote the same names one by one, none of its words is reserved, and it is
rendered in the same way. -/
structure KeepsNames (ident written : Ident) : Prop where
  length : written.parts.length = ident.parts.length
  denoted : List.Forall₂ (fun part original => Part.denoted part = Part.denoted original)
    written.parts ident.parts
  unreserved : ∀ word, .unquoted word ∈ written.parts → Text.asciiLower word ∉ reservedWords
  toSql_eq : written.toSql = ident.toSql

/-! ### One part -/

/-- Writing a part keeps the name that it denotes. A reserved word is put in lower case for that, as
the database does with unquoted names. -/
theorem Part.denoted_written (part : Part) : part.written.denoted = part.denoted := by
  cases part with
  | unquoted word =>
    rw [written]
    split <;> rfl
  | quoted name => rfl

/-- What is written without quotes is not reserved. -/
theorem Part.not_isReserved_of_written {part : Part} {word : String}
    (h : part.written = .unquoted word) : isReserved word = false := by
  cases part with
  | unquoted text =>
    rw [written] at h
    split at h
    · cases h
    · rename_i hfree
      cases h
      simpa using hfree
  | quoted name => cases h

/-- A part is rendered as the source of the part that is read there. -/
theorem Part.source_written (part : Part) : part.written.source = part.toSql.toList := by
  cases part with
  | unquoted word =>
    rw [written, toSql, sqlWord]
    split
    · exact (toList_quoted _).symm
    · rfl
  | quoted name => exact (toList_quoted name).symm

/-- Rendering a part that was written changes nothing. -/
theorem Part.toSql_written (part : Part) : part.written.toSql = part.toSql := by
  rw [← String.toList_inj, ← source_written part]
  exact toSql_eq_source fun _ => not_isReserved_of_written

/-- What is written can be read again. -/
theorem Part.IsWritable.written {part : Part} (h : part.IsWritable) : part.written.IsWritable := by
  cases h with
  | @word text first rest htext hfirst hrest =>
    rw [Part.written]
    split
    · refine .name fun hempty => ?_
      have hlength := length_asciiLower text
      rw [hempty, htext] at hlength
      cases hlength
    · exact .word htext hfirst hrest
  | name hne => exact .name hne

/-! ### Identifiers -/

/-- What is rendered for the parts of a text is a text of the parts that are read there. -/
theorem IsReading.toSql {text : String} {ident : Ident} (h : IsReading text ident.parts) :
    IsReading ident.toSql (ident.parts.map Part.written) := by
  have hparts : ∀ part ∈ ident.parts, '\x00' ∉ part.chars := fun part hpart hnul =>
    h.no_nul (subset_of_parse (parse_eq_ok_iff.2 h) part hpart hnul)
  refine
    { no_nul := not_mem_toSql (by decide) (by decide) (by decide) hparts
      ne_nil := by simpa using h.ne_nil
      writable := fun part hpart => ?_
      source := ?_ }
  · obtain ⟨original, horiginal, rfl⟩ := List.mem_map.1 hpart
    exact (h.writable original horiginal).written
  · rw [toList_toSql, List.map_map]
    exact congrArg _ (List.map_congr_left fun part _ => part.source_written.symm)

/-- Part by part, what is written denotes what was read. -/
theorem keepsNames_written (ident : Ident) :
    ident.KeepsNames ⟨ident.parts.map Part.written⟩ where
  length := List.length_map _
  denoted := by
    rw [List.forall₂_map_left_iff, List.forall₂_same]
    exact fun part _ => part.denoted_written
  unreserved := by
    intro word hword hmem
    obtain ⟨part, -, hpart⟩ := List.mem_map.1 hword
    have hfree := Part.not_isReserved_of_written hpart
    rw [isReserved, List.contains_iff_mem.2 hmem] at hfree
    cases hfree
  toSql_eq := by
    rw [Ident.toSql, Ident.toSql, List.map_map]
    exact congrArg _ (List.map_congr_left fun part _ => part.toSql_written)

/-- The rendered text is read as the row of written parts. -/
theorem parse_toSql {text : String} {ident : Ident} (h : parse text = .ok ident) :
    parse ident.toSql = .ok ⟨ident.parts.map Part.written⟩ :=
  parse_eq_ok_iff.2 (parse_eq_ok_iff.1 h).toSql

end Ident

/-- A table is written as it is written once it was written before. -/
theorem sqlTable_sqlTable (name : String) : sqlTable (sqlTable name) = sqlTable name := by
  cases hparse : Ident.parse name with
  | error fault => rw [sqlTable, sqlTable, hparse, hparse]
  | ok ident =>
    rw [sqlTable_of_parse hparse, sqlTable_of_parse (Ident.parse_toSql hparse)]
    exact ident.keepsNames_written.toSql_eq

namespace Ident

/-- A rendered identifier is read again, with the same names in its parts and no reserved word that
is not quoted, and is rendered as it was before. So are the names of tables. -/
theorem keepsNames_of_parse {text : String} {ident : Ident} (h : parse text = .ok ident) :
    (∃ written, parse ident.toSql = .ok written ∧ ident.KeepsNames written) ∧
      sqlTable (sqlTable text) = sqlTable text :=
  ⟨⟨_, parse_toSql h, ident.keepsNames_written⟩, sqlTable_sqlTable text⟩

/-- A reserved word gets quotes, behind a name that has a quote in it. -/
theorem keepsNames_of_parse_order :
    parse "\"a\"\"b\".Order" = .ok ⟨[.quoted "a\"b", .unquoted "Order"]⟩ ∧
      (∃ written, parse (toSql ⟨[.quoted "a\"b", .unquoted "Order"]⟩) = .ok written ∧
        KeepsNames ⟨[.quoted "a\"b", .unquoted "Order"]⟩ written) ∧
      sqlTable (sqlTable "\"a\"\"b\".Order") = sqlTable "\"a\"\"b\".Order" := by
  have hparse : parse "\"a\"\"b\".Order" = .ok ⟨[.quoted "a\"b", .unquoted "Order"]⟩ := by
    decide +kernel
  exact ⟨hparse, keepsNames_of_parse hparse⟩

end Ident

end EntityQuery
