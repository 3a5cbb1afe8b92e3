import EntityQuery.Proofs.Ident.Grammar

namespace EntityQuery

namespace Ident

/-! ### Parts -/

/-- Doubling quotes only makes a text longer. -/
theorem length_le_escapeQuotes (cs : List Char) : cs.length ≤ (escapeQuotes cs).length := by
  induction cs with
  | nil => exact Nat.le_refl _
  | cons c rest ih =>
    rw [escapeQuotes]
    split
    · simp only [List.length_cons]
      omega
    · simp only [List.length_cons]
      omega

theorem length_asciiLower (word : String) :
    (Text.asciiLower word).toList.length = word.toList.length := by
  rw [Text.asciiLower, String.toList_ofList, List.length_map]

/-- A reserved word is longer by its quotes. -/
theorem length_lt_sqlWord {word : String} (h : isReserved word) :
    word.toList.length < (sqlWord word).toList.length := by
  have hescaped := length_le_escapeQuotes (Text.asciiLower word).toList
  rw [length_asciiLower] at hescaped
  rw [sqlWord, if_pos h, quoted, String.toList_ofList]
  simp only [List.length_append, List.length_cons, List.length_nil]
  omega

theorem toList_quoted (name : String) : (quoted name).toList = (Part.quoted name).source := by
  rw [source_quoted, quoted, String.toList_ofList, List.cons_append]

/-- A part that is no reserved word is written as it was read. -/
theorem Part.toSql_eq_source {part : Part}
    (h : ∀ word, part = .unquoted word → isReserved word = false) :
    part.toSql.toList = part.source := by
  cases part with
  | unquoted word =>
    rw [Part.toSql, sqlWord, h word rfl]
    rfl
  | quoted name => exact toList_quoted name

/-- No part gets shorter when it is written, and a reserved word gets longer by two quotes. -/
theorem Part.length_source_le (part : Part) : part.source.length ≤ part.toSql.toList.length := by
  cases part with
  | unquoted word =>
    cases hreserved : isReserved word with
    | true => exact Nat.le_of_lt (length_lt_sqlWord hreserved)
    | false =>
      have hword : sqlWord word = word := by
        rw [sqlWord, hreserved]
        rfl
      exact Nat.le_of_eq (congrArg (fun text : String => text.toList.length) hword).symm
  | quoted name => exact Nat.le_of_eq (congrArg List.length (toList_quoted name)).symm

/-! ### Rows of parts -/

theorem toList_toSql (ident : Ident) :
    ident.toSql.toList = ['.'].intercalate (ident.parts.map fun part => part.toSql.toList) := by
  rw [toSql, String.toList_intercalate, List.map_map]
  rfl

/-- An identifier is written as it was read exactly if no part of it is a reserved word. -/
theorem toSql_eq_self_iff {text : String} {ident : Ident} (h : IsReading text ident.parts) :
    ident.toSql = text ↔ ∀ word, .unquoted word ∈ ident.parts → isReserved word = false := by
  rw [← String.toList_inj, toList_toSql, h.source]
  constructor
  · intro hsame word hmem
    rw [Bool.eq_false_iff]
    intro hreserved
    -- One reserved part makes the whole row longer than the text.
    have hrows := congrArg (['.'] ++ ·) hsame
    rw [append_intercalate (by simpa using h.ne_nil),
      append_intercalate (by simpa using h.ne_nil), List.flatMap_map, List.flatMap_map] at hrows
    have hlonger : (ident.parts.flatMap fun part => ['.'] ++ part.source).length <
        (ident.parts.flatMap fun part => ['.'] ++ part.toSql.toList).length :=
      length_flatMap_lt (fun part _ => Nat.succ_le_succ part.length_source_le) hmem
        (Nat.succ_lt_succ (length_lt_sqlWord hreserved))
    rw [hrows] at hlonger
    exact absurd hlonger (Nat.lt_irrefl _)
  · intro hfree
    have hparts : ident.parts.map (fun part => part.toSql.toList) =
        ident.parts.map Part.source :=
      List.map_congr_left fun part hpart =>
        Part.toSql_eq_source fun word hword => hfree word (hword ▸ hpart)
    rw [hparts]

/-- A text without dots has one part. -/
theorem IsReading.exists_part {text : String} {parts : List Part} (h : IsReading text parts)
    (hdot : '.' ∉ text.toList) : ∃ part, parts = [part] ∧ text.toList = part.source := by
  obtain ⟨part, rest, rfl⟩ := List.exists_cons_of_ne_nil h.ne_nil
  have hsource := h.source
  cases rest with
  | nil => exact ⟨part, rfl, by simpa using hsource⟩
  | cons next rest =>
    rw [List.map_cons, List.map_cons, List.intercalate_cons_cons] at hsource
    rw [hsource] at hdot
    simp at hdot

end Ident

/-! ### Tables -/

theorem sqlTable_of_parse {name : String} {ident : Ident} (h : Ident.parse name = .ok ident) :
    sqlTable name = ident.toSql := by
  rw [sqlTable, h]

/-- The name of a table is written as it is exactly if none of its unquoted parts is reserved, since
a reserved part is written with quotes, which make it longer. -/
theorem sqlTable_eq_self_iff {name : String} {ident : Ident} (h : Ident.parse name = .ok ident) :
    sqlTable name = name ↔ ∀ word, .unquoted word ∈ ident.parts → isReserved word = false := by
  rw [sqlTable_of_parse h]
  exact Ident.toSql_eq_self_iff (Ident.parse_eq_ok_iff.1 h)

/-- Writing a word adds no dot, so it remains one part. -/
theorem dot_not_mem_sqlWord {word : String} (h : '.' ∉ word.toList) :
    '.' ∉ (sqlWord word).toList :=
  not_mem_sqlWord (by decide) (by decide) h

/-- A name without a schema is written without one. -/
theorem dot_not_mem_sqlTable {name : String} (h : '.' ∉ name.toList) :
    '.' ∉ (sqlTable name).toList := by
  cases hparse : Ident.parse name with
  | error fault => rwa [sqlTable, hparse]
  | ok ident =>
    obtain ⟨part, hparts, hsource⟩ := (Ident.parse_eq_ok_iff.1 hparse).exists_part h
    rw [sqlTable_of_parse hparse, Ident.toList_toSql, hparts, List.map_singleton,
      List.intercalate_singleton]
    cases part with
    | unquoted word =>
      have hword : '.' ∉ word.toList := by rwa [hsource] at h
      exact dot_not_mem_sqlWord hword
    | quoted name =>
      rw [Ident.Part.toSql, Ident.toList_quoted, ← hsource]
      exact h

end EntityQuery
