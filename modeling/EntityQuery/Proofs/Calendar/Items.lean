import EntityQuery.Calendar.Reader
import EntityQuery.Proofs.Text.Basic

namespace EntityQuery

open Text

namespace Calendar

/-! ### Items -/

/-- The items read one text after another, from what was read before them to what they leave. -/
inductive ReadsItems : List PatternItem → Reading → Reading → Prop
  | nil {reading : Reading} : ReadsItems [] reading reading
  | cons {item : PatternItem} {items : List PatternItem} {fields : Fields} {cs : List Char}
      {next after : Reading} (hplain : item ≠ .timestampText)
      (hitem : readItem? item fields cs = some next) (hitems : ReadsItems items next after) :
      ReadsItems (item :: items) (fields, cs) after

variable {items others : List PatternItem} {before between after : Reading} {fields : Fields}
  {cs rest : List Char} {f : Field} {value : Int} {width : Nat} {signed : Bool}

/-- Items that are read one behind the other are read together. -/
theorem ReadsItems.append (hitems : ReadsItems items before between)
    (hothers : ReadsItems others between after) : ReadsItems (items ++ others) before after := by
  induction hitems with
  | nil => exact hothers
  | cons hplain hitem _ ih => exact .cons hplain hitem (ih hothers)

/-- The loop over the items of a pattern goes through them in this way, as long as none of them is
an instant in text form, which the loop reads apart. -/
theorem ReadsItems.foldlM_eq (h : ReadsItems items before after) :
    items.foldlM
      (fun (fields, cs) item =>
        if item = .timestampText then readTimestampText? (fields, cs)
        else readItem? item fields cs) before = some after := by
  induction h with
  | nil => rfl
  | cons hplain hitem _ ih =>
    rw [List.foldlM_cons]
    simp only [if_neg hplain, hitem]
    exact ih

/-- A text is described in full by items that read it to its end. -/
theorem ReadsItems.readFields? {text : String}
    (h : ReadsItems items ([], text.toList) (fields, rest)) :
    readFields? items text = if rest.isEmpty then some fields else none := by
  rw [Calendar.readFields?, h.foldlM_eq]
  rfl

/-- A value that a field can have. -/
def Field.Fits (f : Field) (value : Int) : Prop :=
  f.bounds.1 ≤ value ∧ value ≤ f.bounds.2

/-- The fields of year, month, day, hour, minute and second. -/
def plainFields : List Field :=
  [.second, .minute, .hourOfHalf, .halfDay, .day, .month, .year]

/-- Nothing but these fields was read. -/
def Fields.IsPlain (fields : Fields) : Prop :=
  ∀ f, f ∉ plainFields → fields.get? f = none

end Calendar

end EntityQuery
