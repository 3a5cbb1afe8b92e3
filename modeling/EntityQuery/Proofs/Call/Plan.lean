import EntityQuery.Call.Plan
import EntityQuery.Proofs.Results

namespace EntityQuery

namespace Call

/-- A pattern is the text of its argument, and null stays null. -/
def patternOf : Value → Value
  | .null => .null
  | other => .string other.toText

/-- What a pattern is compared with: the column, or its text when it is declared as anything else
than text. -/
def patternTarget (entity : EntityMeta) (field column : String) : String :=
  match entity.typeOf? field with
  | none | some .string => column
  | some _ => column ++ "::text"

/-- The test for membership among the members of a list, which is decided when there are none. -/
def membershipPredicate (column : String) (negated : Bool) (members : List Value) (param : String) :
    Expr :=
  if members.isEmpty then .atom (if negated then .always else .never)
  else .inList column param negated

variable {s : Session} {method field : String} {op : CompareOp} {args : List Value} {plan : Plan}

/-- A call that needs an argument reads the first one. -/
theorem firstArgument_ok {value : Value} (h : firstArgument method args = .ok value) :
    args.take 1 = [value] := by
  cases args with
  | nil => cases h
  | cons first rest =>
    cases h
    rfl

/-- A comparison binds its coerced argument with the declared type of the field. -/
theorem planCompare_ok (h : planCompare s method field op args = .ok plan) :
    ∃ v w, firstArgument method args = .ok v ∧ coerceArgument s field v = .ok w ∧
      plan = .condition (some (w, s.entity.typeOf? field)) (.compare (s.qualify field) op) := by
  obtain ⟨v, hv, h⟩ := bind_eq_ok h
  obtain ⟨w, hw, h⟩ := bind_eq_ok h
  cases h
  exact ⟨v, w, hv, hw, rfl⟩

/-- A pattern is bound as text, or as null, and no list is one. -/
theorem planPattern_ok (h : planPattern s method field op args = .ok plan) :
    ∃ v, firstArgument method args = .ok v ∧ (∀ items, v ≠ .list items) ∧
      plan =
        .condition (some (patternOf v, some .string))
          (.compare (patternTarget s.entity field (s.qualify field)) op) := by
  obtain ⟨v, hv, h⟩ := bind_eq_ok h
  refine ⟨v, hv, ?_, ?_⟩
  · rintro items rfl
    cases h
  · cases v with
    | list items => cases h
    | _ =>
      cases h
      rfl

/-- A test for membership binds the coerced list of its members with the declared type of the field.
A single value is a list of one member. -/
theorem planMembership_ok {negated : Bool}
    (h : planMembership s method field negated args = .ok plan) :
    ∃ v w, firstArgument method args = .ok v ∧
      coerceArgument s field (.list (membersOf v)) = .ok w ∧
      plan = .condition (some (w, s.entity.typeOf? field))
        (membershipPredicate (s.qualify field) negated (membersOf v)) := by
  obtain ⟨v, hv, h⟩ := bind_eq_ok h
  obtain ⟨w, hw, h⟩ := bind_eq_ok h
  cases h
  exact ⟨v, w, hv, hw, rfl⟩

/-! ### Names of methods -/

/-- The field of a call that was read is declared. -/
theorem declares_of_parseWith {table : OperatorTable} {entity : EntityMeta} {argCount : Nat}
    {call : ParsedCall} (h : parseWith table entity method argCount = .ok call) :
    entity.declares call.field := by
  simp only [parseWith] at h
  split at h
  · cases h
  · split at h
    · cases h
    · split at h
      · rename_i field hfield
        cases h
        exact List.find?_some hfield
      · cases h

/-- Whichever of the two tables decides, the field of a call that was read is declared. -/
theorem declares_of_parse {entity : EntityMeta} {argCount : Nat} {call : ParsedCall}
    (h : Call.parse entity method argCount = .ok call) : entity.declares call.field := by
  rw [Call.parse] at h
  split at h
  · exact declares_of_parseWith h
  · exact declares_of_parseWith h

end Call

/-- A call that succeeds was read, planned and carried out. -/
theorem Session.call_ok {s t : Session} {method : String} {args : List Value}
    (h : s.call method args = .ok t) :
    ∃ call plan, Call.parse s.entity method args.length = .ok call ∧
      Call.plan (s.afterQualify call.field) method call args = .ok plan ∧
      t = Call.perform (s.afterQualify call.field) call plan := by
  unfold Session.call apply at h
  cases hparse : Call.parse s.entity method args.length with
  | error e =>
    rw [hparse] at h
    cases h
  | ok call =>
    rw [hparse] at h
    cases hplan : Call.plan (s.afterQualify call.field) method call args with
    | error e =>
      simp only [hplan] at h
      cases h
    | ok plan =>
      simp only [hplan] at h
      cases h
      exact ⟨call, plan, rfl, hplan, rfl⟩

end EntityQuery
