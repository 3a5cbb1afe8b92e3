import EntityQuery.Proofs.Parameters.Shape
import EntityQuery.Proofs.Sql.Writing

namespace EntityQuery

/-- The text of a statement and the number of its parameters. -/
def BuiltQuery.shape (q : BuiltQuery) : String × Nat :=
  (q.sql, q.params.length)

theorem Value.length_parameters {v w : Value} (h : v.listLength? = w.listLength?) (inList : Bool) :
    (v.parameters inList).length = (w.parameters inList).length := by
  cases v <;> cases w <;> cases inList <;> simp_all [Value.parameters, Value.listLength?]

/-- Two runs of a loop that agree on a view of their states after every step agree on it in the
end. -/
theorem foldlM_map_congr {α β γ ε : Type} {f g : β → α → Except ε β} (view : β → γ)
    (hstep : ∀ b c a, view b = view c → (f b a).map view = (g c a).map view) (items : List α)
    {b c : β} (h : view b = view c) :
    (items.foldlM f b).map view = (items.foldlM g c).map view := by
  induction items generalizing b c with
  | nil => exact congrArg Except.ok h
  | cons a rest ih =>
    have hfirst := hstep b c a h
    rw [List.foldlM_cons, List.foldlM_cons]
    cases hf : f b a with
    | error reason =>
      cases hg : g c a with
      | error other =>
        rw [hf, hg] at hfirst
        cases hfirst
        rfl
      | ok next =>
        rw [hf, hg] at hfirst
        cases hfirst
    | ok next =>
      cases hg : g c a with
      | error other =>
        rw [hf, hg] at hfirst
        cases hfirst
      | ok next' =>
        rw [hf, hg] at hfirst
        exact ih (Except.ok.inj hfirst)

namespace Sql

/-- What is written for a list depends on the number of its elements only. -/
theorem listText_congr {values values' : List Value} (h : values.length = values'.length)
    (first : Nat) : listText first values = listText first values' := by
  have hempty : values.isEmpty = values'.isEmpty := by
    cases values <;> cases values' <;> simp_all
  rw [listText, listText, hempty, h]

/-- A writer without its values: the text, the number of parameters, and what was written for
placeholders. -/
def Writer.shape (w : Writer) : String × Nat × List (String × String) :=
  (w.sql, w.params.length, w.written)

variable {scope : Scope} {table : ParamTable}

theorem Writer.shape_push {w w' : Writer} (h : w.shape = w'.shape) (text : String) :
    (w.push text).shape = (w'.push text).shape := by
  obtain ⟨hsql, hrest⟩ := Prod.mk.inj h
  obtain ⟨hlength, hwritten⟩ := Prod.mk.inj hrest
  simp [push, shape, hsql, hlength, hwritten]

/-- A segment is written in the same way by writers of one shape with tables of one shape, or
refused for the same reason. -/
theorem shape_pushSegment (htable : scope.table.shape = table.shape) (segment : Segment)
    {w w' : Writer} (h : w.shape = w'.shape) :
    (w.pushSegment scope segment).map Writer.shape =
      (w'.pushSegment { scope with table } segment).map Writer.shape := by
  obtain ⟨hsql, hrest⟩ := Prod.mk.inj h
  obtain ⟨hlength, hwritten⟩ := Prod.mk.inj hrest
  cases segment with
  | verbatim text => exact congrArg Except.ok (Writer.shape_push h _)
  | field name => exact congrArg Except.ok (Writer.shape_push h _)
  | placeholder name inList =>
    rw [Writer.pushSegment, Writer.pushSegment]
    cases hlookup : w.written.lookup (String.ofList name) with
    | some text =>
      have hlookup' := hlookup
      rw [hwritten] at hlookup'
      rw [Writer.bind_of_written hlookup, Writer.bind_of_written hlookup']
      exact congrArg Except.ok (Writer.shape_push h text)
    | none =>
      have hlookup' := hlookup
      rw [hwritten] at hlookup'
      have hvalues : (scope.table.value? (String.ofList name)).map Value.listLength? =
          (table.value? (String.ofList name)).map Value.listLength? := by
        rw [ParamTable.listLength?_value?, ParamTable.listLength?_value?, htable]
      cases hvalue : scope.table.value? (String.ofList name) with
      | none =>
        have hvalue' : table.value? (String.ofList name) = none := by
          rw [hvalue] at hvalues
          simpa using hvalues.symm
        rw [Writer.bind_of_unbound hlookup hvalue, Writer.bind_of_unbound hlookup' hvalue']
      | some value =>
        obtain ⟨value', hvalue', hsame⟩ : ∃ value', table.value? (String.ofList name) =
            some value' ∧ value'.listLength? = value.listLength? := by
          rw [hvalue] at hvalues
          exact Option.map_eq_some_iff.1 hvalues.symm
        have hparameters := Value.length_parameters hsame.symm inList
        rw [Writer.bind_of_value hlookup hvalue, Writer.bind_of_value hlookup' hvalue']
        simp [Except.map, Writer.push, Writer.shape, hsql, hlength, hwritten, hparameters,
          listText_congr hparameters]

/-- So is a text, segment by segment. -/
theorem shape_pushText (htable : scope.table.shape = table.shape) (text : String) {w w' : Writer}
    (h : w.shape = w'.shape) :
    (w.pushText scope text).map Writer.shape =
      (w'.pushText { scope with table } text).map Writer.shape :=
  foldlM_map_congr Writer.shape (fun _ _ segment h => shape_pushSegment htable segment h) _ h

end Sql

end EntityQuery
