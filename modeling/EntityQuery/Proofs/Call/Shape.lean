import EntityQuery.Proofs.Call.Plan
import EntityQuery.Proofs.Coercion

namespace EntityQuery

namespace Call

/-- An argument that is coerced keeps its shape. -/
theorem listLength?_coerceArgument {s : Session} {field : String} {value coerced : Value}
    (h : coerceArgument s field value = .ok coerced) : coerced.listLength? = value.listLength? := by
  rw [coerceArgument] at h
  split at h
  · exact EntityMeta.listLength?_coerce (mapError_eq_ok h)
  · cases h
    rfl

/-! ### Plans -/

/-- Two plans that add the same, but for the value that a condition binds. -/
inductive Plan.SameShape : Plan → Plan → Prop
  | bound {v w : Value} (type? : Option FieldType) (predicate : String → Expr)
      (h : v.listLength? = w.listLength?) :
      SameShape (.condition (some (v, type?)) predicate) (.condition (some (w, type?)) predicate)
  | same (plan : Plan) : SameShape plan plan

variable {s : Session} {method field : String} {args args' : List Value} {plan plan' : Plan}

/-- The arguments that two calls read are of one shape. -/
theorem listLength?_firstArgument {v w : Value}
    (hargs : args.map Value.listLength? = args'.map Value.listLength?)
    (hv : firstArgument method args = .ok v) (hw : firstArgument method args' = .ok w) :
    v.listLength? = w.listLength? := by
  cases args with
  | nil => cases hv
  | cons first rest =>
    cases args' with
    | nil => cases hw
    | cons first' rest' =>
      cases hv
      cases hw
      exact (List.cons.inj hargs).1

/-- Arguments of one shape have equally many members, since a value that is no list is its only
member. -/
theorem length_membersOf {v w : Value} (h : v.listLength? = w.listLength?) :
    (membersOf v).length = (membersOf w).length := by
  cases v <;> cases w <;> simp_all [membersOf, Value.listLength?]

/-- A test for membership only depends on whether there are members. -/
theorem membershipPredicate_congr {column : String} {negated : Bool} {members members' : List Value}
    (h : members.length = members'.length) :
    membershipPredicate column negated members = membershipPredicate column negated members' := by
  have hempty : members.isEmpty = members'.isEmpty := by
    cases members <;> cases members' <;> simp_all
  funext param
  rw [membershipPredicate, membershipPredicate, hempty]

/-- Comparisons with arguments of one shape have plans of one shape. -/
theorem sameShape_planCompare {op : CompareOp}
    (hargs : args.map Value.listLength? = args'.map Value.listLength?)
    (h : planCompare s method field op args = .ok plan)
    (h' : planCompare s method field op args' = .ok plan') : plan.SameShape plan' := by
  obtain ⟨v, w, hv, hw, rfl⟩ := planCompare_ok h
  obtain ⟨v', w', hv', hw', rfl⟩ := planCompare_ok h'
  apply Plan.SameShape.bound
  calc
    w.listLength? = v.listLength? := listLength?_coerceArgument hw
    _ = v'.listLength? := listLength?_firstArgument hargs hv hv'
    _ = w'.listLength? := (listLength?_coerceArgument hw').symm

theorem listLength?_patternOf (v : Value) : (patternOf v).listLength? = none := by
  cases v <;> rfl

/-- Patterns are texts or null, so their plans have one shape whatever the arguments are. -/
theorem sameShape_planPattern {op : CompareOp} (h : planPattern s method field op args = .ok plan)
    (h' : planPattern s method field op args' = .ok plan') : plan.SameShape plan' := by
  obtain ⟨v, -, -, rfl⟩ := planPattern_ok h
  obtain ⟨v', -, -, rfl⟩ := planPattern_ok h'
  apply Plan.SameShape.bound
  rw [listLength?_patternOf, listLength?_patternOf]

/-- Tests for membership among equally many members have plans of one shape. -/
theorem sameShape_planMembership {negated : Bool}
    (hargs : args.map Value.listLength? = args'.map Value.listLength?)
    (h : planMembership s method field negated args = .ok plan)
    (h' : planMembership s method field negated args' = .ok plan') : plan.SameShape plan' := by
  obtain ⟨v, w, hv, hw, rfl⟩ := planMembership_ok h
  obtain ⟨v', w', hv', hw', rfl⟩ := planMembership_ok h'
  have hmembers := length_membersOf (listLength?_firstArgument hargs hv hv')
  rw [membershipPredicate_congr hmembers]
  apply Plan.SameShape.bound
  calc
    w.listLength? = some (membersOf v).length := listLength?_coerceArgument hw
    _ = some (membersOf v').length := congrArg some hmembers
    _ = w'.listLength? := (listLength?_coerceArgument hw').symm

/-- An ordering without a fixed direction takes one from its arguments. -/
def Operator.TakesDirection (operator : Operator) : Prop :=
  operator = .orderBy ∨ operator = .addOrderBy

instance (operator : Operator) : Decidable operator.TakesDirection :=
  inferInstanceAs (Decidable (_ ∨ _))

/-- Calls of one method with arguments of one shape, and with the same direction where one is
taken, have plans of one shape. -/
theorem sameShape_plan {call : ParsedCall}
    (hargs : args.map Value.listLength? = args'.map Value.listLength?)
    (hdirection : call.operator.TakesDirection → directionOf args = directionOf args')
    (h : Call.plan s method call args = .ok plan)
    (h' : Call.plan s method call args' = .ok plan') : plan.SameShape plan' := by
  unfold Call.plan at h h'
  cases hoperator : call.operator <;> simp only [hoperator] at h h'
  case whereIs | filterBy | equal | notEqual | greaterThan | greaterThanEqual | lessThan
      | lessThanEqual =>
    exact sameShape_planCompare hargs h h'
  case like | notLike => exact sameShape_planPattern h h'
  case isIn | notIn => exact sameShape_planMembership hargs h h'
  case orderBy =>
    rw [hdirection (Or.inl hoperator), h'] at h
    cases h
    exact .same plan
  case addOrderBy =>
    rw [hdirection (Or.inr hoperator), h'] at h
    cases h
    exact .same plan
  all_goals
    cases h
    cases h'
    exact .same _

end Call

end EntityQuery
