import EntityQuery.Derive.Evaluation
import EntityQuery.Proofs.Keyed
import EntityQuery.Proofs.Results

namespace EntityQuery

namespace Record

variable {r : Record} {column : String}

/-- The row that is made by adding cells one after the other. -/
def pushAll (r : Record) (cells : List (String × Value)) : Record :=
  cells.foldl (fun r (column, value) => r.push column value) r

/-- The values of the cells of a column, in the order of the selection. -/
def valuesOf (column : String) (cells : List (String × Value)) : List Value :=
  (cells.filter fun cell => cell.1 = column).map Prod.snd

/-- The document of the row and the row by names agree on a column: the document has a member for it
exactly if the name is found, and the member is the document of the value that is found. -/
structure SeesOneCell (r : Record) (column : String) : Prop where
  present : (r.toJson.member? column).isSome ↔ (r.get? column).isSome
  entry : ∀ value, r.get? column = some value → r.toJson.member? column = some value.toJson

/-- What is read of the column is the value that is found by its name, by itself and as a field of a
record. -/
structure ReadsFound (r : Record) (column : String) : Prop where
  absent : r.get? column = none → ∀ type, r.tryGet column type = .error (.decode column .absent)
  value : ∀ value, r.get? column = some value → r.tryGet column ⟨.value, false⟩ = .ok (some value)
  json : ∀ value, r.get? column = some value →
    r.tryGet column ⟨.json, false⟩ = .ok (some (.json value.toJson))
  fields : ∀ (reader : Derive.RecordReader) fields, Derive.readFields reader r = .ok fields →
    List.Forall₂ (fun entry field => entry.2.1 = column →
      ∃ value, r.get? column = some value ∧ entry.2.2.read? value = some field.2) reader fields

/-! ### The cells of a row -/

theorem cells_pushAll (r : Record) (cells : List (String × Value)) :
    (r.pushAll cells).cells = r.cells ++ cells := by
  induction cells generalizing r with
  | nil => exact (List.append_nil _).symm
  | cons cell rest ih =>
    have hpush : ((r.push cell.1 cell.2).pushAll rest).cells = r.cells ++ cell :: rest := by
      rw [ih, push, List.append_assoc, List.singleton_append]
    exact hpush

/-- A look-up by name finds the first cell of a column. -/
theorem head?_valuesOf (column : String) (cells : List (String × Value)) :
    (valuesOf column cells).head? = cells.lookup column := by
  induction cells with
  | nil => rfl
  | cons cell rest ih =>
    obtain ⟨name, value⟩ := cell
    rw [valuesOf] at ih ⊢
    by_cases hname : name = column
    · simp [hname]
    · have hbeq : (column == name) = false := beq_eq_false_iff_ne.2 (Ne.symm hname)
      rw [List.filter_cons_of_neg (by simpa using hname), List.lookup_cons, hbeq, ih]

theorem getLast?_valuesOf (column : String) (cells : List (String × Value)) :
    (valuesOf column cells).getLast? = cells.reverse.lookup column := by
  rw [← head?_valuesOf, valuesOf, valuesOf, List.filter_reverse, List.map_reverse,
    List.head?_reverse]

/-- By its name the first cell of a column is found. -/
theorem get?_pushAll (column : String) (cells : List (String × Value)) :
    (pushAll {} cells).get? column = (valuesOf column cells).head? := by
  rw [get?, cells_pushAll, List.nil_append, head?_valuesOf]

/-- In the document of a row the last cell of a column counts. -/
theorem member?_toJson_pushAll (column : String) (cells : List (String × Value)) :
    (pushAll {} cells).toJson.member? column =
      (valuesOf column cells).getLast?.map Value.toJson := by
  have hcells : (pushAll {} cells).cells = cells := cells_pushAll {} cells
  have hmembers := Keyed.lookup_foldl_insert column (Keyed.mapValues Value.toJson cells) []
  rw [List.lookup_nil, Option.or_none, Keyed.mapValues, ← List.map_reverse] at hmembers
  rw [toJson, hcells, getLast?_valuesOf]
  exact hmembers.trans (Keyed.lookup_mapValues _ _ _)

/-! ### Reading by name -/

/-- Every read of a column, by itself or as a field of a record, is a read of the first cell of that
column, and fails as absent if there is none. -/
theorem readsFound (r : Record) (column : String) : r.ReadsFound column where
  absent h type := by rw [tryGet, h]
  value value h := by
    rw [tryGet, h]
    rfl
  json value h := by
    rw [tryGet, h]
    rfl
  fields reader fields h := by
    refine (forall₂_of_mapM_ok h).imp ?_
    rintro ⟨name, _, type⟩ field hread rfl
    obtain ⟨found, hfound, rfl⟩ := map_eq_ok hread
    rw [tryGet] at hfound
    split at hfound
    · cases hfound
    · rename_i value hvalue
      split at hfound
      · rename_i cell hcell
        cases hfound
        exact ⟨value, hvalue, hcell⟩
      · cases hfound

/-! ### One row -/

/-- The two forms of a row agree on a column if and only if the first and the last of its cells have
the same document. What is read by the name of the column is the first of them in any case. -/
theorem seesOneCell_iff (cells : List (String × Value)) (column : String) :
    ((pushAll {} cells).SeesOneCell column ↔
      ∀ first ∈ (valuesOf column cells).head?, ∀ last ∈ (valuesOf column cells).getLast?,
        last.toJson = first.toJson) ∧
      ((pushAll {} cells).toJson.member? column).isSome =
        ((pushAll {} cells).get? column).isSome ∧
      (pushAll {} cells).ReadsFound column := by
  have hget := get?_pushAll column cells
  have hmember := member?_toJson_pushAll column cells
  have hsome : (valuesOf column cells).getLast?.isSome = (valuesOf column cells).head?.isSome := by
    rw [Bool.eq_iff_iff, List.getLast?_isSome, List.isSome_head?]
  have hpresent : ((pushAll {} cells).toJson.member? column).isSome =
      ((pushAll {} cells).get? column).isSome := by
    rw [hget, hmember, Option.isSome_map, hsome]
  refine ⟨⟨fun h first hfirst last hlast => ?_,
    fun h => ⟨by rw [hpresent], fun value hvalue => ?_⟩⟩,
    hpresent, readsFound _ _⟩
  · have hentry := h.entry first (hget.trans hfirst)
    rw [hmember, hlast] at hentry
    exact Option.some.inj hentry
  · rw [hget] at hvalue
    rw [hvalue, Option.isSome_some] at hsome
    obtain ⟨last, hlast⟩ := Option.isSome_iff_exists.1 hsome
    rw [hmember, hlast, Option.map_some, h value hvalue last hlast]

/-- Two joined tables with an `id` each: the first one is found by the name, and the document has
the last one. -/
theorem not_seesOneCell_id :
    (pushAll {} [("id", .int 1), ("id", .int 2)]).get? "id" = some (.int 1) ∧
      (pushAll {} [("id", .int 1), ("id", .int 2)]).toJson.member? "id" =
        some (Value.toJson (.int 2)) ∧
      ¬ ∀ (cells : List (String × Value)) (column : String),
        (pushAll {} cells).SeesOneCell column := by
  have hget : (pushAll {} [("id", .int 1), ("id", .int 2)]).get? "id" = some (.int 1) := rfl
  have hmember : (pushAll {} [("id", .int 1), ("id", .int 2)]).toJson.member? "id" =
      some (Value.toJson (.int 2)) := rfl
  refine ⟨hget, hmember, fun hall => ?_⟩
  have hentry := (hall [("id", .int 1), ("id", .int 2)] "id").entry (.int 1) hget
  rw [hmember] at hentry
  cases hentry

end Record

end EntityQuery
