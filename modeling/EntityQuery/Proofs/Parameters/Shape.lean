import EntityQuery.Proofs.Parameters.Allocation
import EntityQuery.Proofs.Value

namespace EntityQuery

namespace ParamTable

/-- The names of a table, each with the number of elements if a list is bound to it. -/
def shape (table : ParamTable) : List (String × Option Nat) :=
  Keyed.mapValues (fun parameter => parameter.value.listLength?) table.entries

variable {table other : ParamTable} {value value' : Value} {type? : Option FieldType}

/-- The shape of a table with one more parameter is that of the table with the shape of its
value. -/
theorem shape_insert (table : ParamTable) (parameter : Parameter) :
    (table.insert parameter).shape =
      Keyed.insert parameter.name parameter.value.listLength? table.shape :=
  Keyed.mapValues_insert _ _ _ _

/-- The shape of a value is found in the shape of the table. -/
theorem listLength?_value? (table : ParamTable) (name : String) :
    (table.value? name).map Value.listLength? = table.shape.lookup (lookupName name) := by
  rw [shape, Keyed.lookup_mapValues, value?, get?, Option.map_map]
  rfl

/-- Which keys are taken can be seen in the shape. -/
theorem hasKey_congr (h : table.shape = other.shape) (key : String) :
    table.hasKey key = other.hasKey key := by
  have hlookup := congrArg (List.lookup key) h
  rw [shape, shape, Keyed.lookup_mapValues, Keyed.lookup_mapValues] at hlookup
  have hsome := congrArg Option.isSome hlookup
  rwa [Option.isSome_map, Option.isSome_map] at hsome

theorem freeFrom_congr (h : table.shape = other.shape) (base : String) (fuel i : Nat) :
    table.freeFrom base fuel i = other.freeFrom base fuel i := by
  induction fuel generalizing i with
  | zero => rfl
  | succ fuel ih => rw [freeFrom, freeFrom, hasKey_congr h, ih]

/-- The next generated name depends on the names of a table only. -/
theorem fresh_congr (h : table.shape = other.shape) (base : String) :
    table.fresh base = other.fresh base := by
  have hsize : table.size = other.size := by
    have hlength := congrArg List.length h
    simpa [shape, Keyed.mapValues, size] using hlength
  rw [fresh, fresh, freeIndex, freeIndex, hsize, freeFrom_congr h]

/-- Setting values of one shape keeps tables of one shape so. -/
theorem shape_set (h : table.shape = other.shape) (name : String)
    (hvalue : value.listLength? = value'.listLength?) :
    (table.set name value type?).shape = (other.set name value' type?).shape := by
  rw [set, set, shape_insert, shape_insert, h]
  exact congrArg (Keyed.insert (bareName name) · other.shape) hvalue

/-- So does binding them, since the generated names are the same. -/
theorem shape_bind (type? : Option FieldType) (h : table.shape = other.shape) (base : String)
    (hvalue : value.listLength? = value'.listLength?) :
    (table.bind base value type?).2.shape = (other.bind base value' type?).2.shape := by
  have hreserved : (table.allocate base).2.shape = (other.allocate base).2.shape := by
    have hname : candidate base (table.freeIndex base) = candidate base (other.freeIndex base) :=
      fresh_congr h base
    rw [allocate, allocate]
    simp only [shape, Keyed.mapValues_insert, hname]
    rw [← shape, ← shape, h]
  have hname : (table.allocate base).1 = (other.allocate base).1 := fresh_congr h base
  rw [bind, bind]
  simp only [hname]
  exact shape_set hreserved _ hvalue

end ParamTable

/-- Two bindings of values of one shape. A type does not matter for the shape. -/
inductive Binding.SameShape : Binding → Binding → Prop
  | value {v w : Value} (h : v.listLength? = w.listLength?) : SameShape (.value v) (.value w)
  | typed {v w : Value} (type : FieldType) (h : v.listLength? = w.listLength?) :
      SameShape (.typed v type) (.typed w type)
  | descriptor {p q : Parameter} (hname : p.name = q.name)
      (h : p.value.listLength? = q.value.listLength?) : SameShape (.descriptor p) (.descriptor q)

theorem Binding.SameShape.refl (b : Binding) : b.SameShape b := by
  cases b with
  | value v => exact .value rfl
  | typed v type => exact .typed type rfl
  | descriptor parameter => exact .descriptor rfl rfl

namespace ParamTable

/-- Appending a binding keeps tables of one shape so, if the bindings are of one shape. -/
theorem shape_appendOne {table other : ParamTable} (h : table.shape = other.shape) (key : String)
    {b c : Binding} (hbinding : b.SameShape c) :
    (table.appendOne key b).shape = (other.appendOne key c).shape := by
  cases hbinding with
  | value hvalue => exact shape_set h key hvalue
  | typed type hvalue => exact shape_set h key hvalue
  | descriptor hname hvalue =>
    rw [appendOne, appendOne, shape_insert, shape_insert, h, hname, hvalue]

/-- Appending bindings with the same keys and the same shapes keeps tables of one shape so. -/
theorem shape_append {table other : ParamTable} (h : table.shape = other.shape)
    {bindings bindings' : List (String × Binding)}
    (hbindings : List.Forall₂ (fun b c => b.1 = c.1 ∧ b.2.SameShape c.2) bindings bindings') :
    (table.append bindings).shape = (other.append bindings').shape := by
  induction hbindings generalizing table other with
  | nil => exact h
  | @cons b c rest rest' hfirst _ ih =>
    obtain ⟨key, binding⟩ := b
    obtain ⟨key', binding'⟩ := c
    obtain ⟨hkey, hsame⟩ := hfirst
    obtain rfl : key = key' := hkey
    exact ih (shape_appendOne h key hsame)

end ParamTable

end EntityQuery
