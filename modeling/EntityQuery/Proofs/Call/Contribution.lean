import EntityQuery.Proofs.Call.Plan
import EntityQuery.Proofs.Coercion
import EntityQuery.Proofs.Expr.Slots
import EntityQuery.Proofs.Sql.Writing

namespace EntityQuery.Call

open Sql

/-- An argument in the form of its field, when arguments are coerced. One that has no such form
stays as it is. -/
def coerced (entity : EntityMeta) (config : Config) (field : String) (value : Value) : Value :=
  if config.coerceArguments then
    (entity.coerce config field value none false).toOption.getD value
  else value

/-- A member of a list in the form of its field, when arguments are coerced. -/
def coercedMember (entity : EntityMeta) (config : Config) (field : String) (value : Value) :
    Value :=
  if config.coerceArguments then inFormOf config (entity.typeOf? field) value else value

/-- The values that a call adds to the parameters of a statement. A comparison adds its argument as
one value, even when it is a list; a pattern adds its text, and a test for membership the members
of its argument. The tests for emptiness compare with the empty text. -/
def values (entity : EntityMeta) (config : Config) (call : ParsedCall) (args : List Value) :
    List Value :=
  match call.operator with
  | .whereIs | .filterBy | .equal | .notEqual | .greaterThan | .greaterThanEqual | .lessThan
  | .lessThanEqual => (args.take 1).map (coerced entity config call.field)
  | .like | .notLike => (args.take 1).map patternOf
  | .isIn | .notIn => (args.take 1).flatMap fun value =>
    (membersOf value).map (coercedMember entity config call.field)
  | .isEmpty | .isNotEmpty => [.string ""]
  | .isNull | .isNotNull => []
  | .orderBy | .addOrderBy | .orderAscBy | .addOrderAscBy | .orderDescBy | .addOrderDescBy => []
  | .groupBy | .addGroupBy => []

/-- The values that a call of a method adds, which are none when the name cannot be read. -/
def contribution (entity : EntityMeta) (config : Config) (method : String) (args : List Value) :
    List Value :=
  match Call.parse entity method args.length with
  | .ok call => values entity config call args
  | .error _ => []

/-! ### Coercion -/

variable {s : Session} {method field : String} {args : List Value} {plan : Plan}

/-- An argument that is accepted is given its form, or is left as it is when the session does not
coerce arguments. -/
theorem coerceArgument_ok {value result : Value} (h : coerceArgument s field value = .ok result) :
    result = coerced s.entity s.config field value := by
  rw [coerceArgument] at h
  rw [coerced]
  split at h
  · rename_i hcoerce
    have hvalue : s.entity.coerce s.config field value none false = .ok result := mapError_eq_ok h
    rw [if_pos hcoerce, hvalue]
    rfl
  · rename_i hcoerce
    rw [if_neg hcoerce]
    exact (Except.ok.inj h).symm

/-- The members of a list are each given their form. -/
theorem coerceArgument_list_ok {items : List Value} {result : Value}
    (h : coerceArgument s field (.list items) = .ok result) :
    result = .list (items.map (coercedMember s.entity s.config field)) := by
  rw [coerceArgument] at h
  unfold coercedMember
  split at h
  · rename_i hcoerce
    simp only [if_pos hcoerce]
    exact EntityMeta.coerce_list_ok (mapError_eq_ok h)
  · rename_i hcoerce
    cases h
    simp [hcoerce]

/-! ### Plans -/

/-- The plan adds these values: its predicate names the value that it binds once, in the context in
which the value takes up these parameters, or it names no value at all. -/
inductive Plan.Adds (qualifier : List Char) : Plan → List Value → Prop
  | bound {value : Value} {type? : Option FieldType} {predicate : String → Expr} (inList : Bool)
      (hscans : ∀ name, Text.isAsciiWord name → ∀ a ∈ (predicate name).atoms, a.Scans qualifier)
      (hslots : ∀ name, (predicate name).slots = [(name, inList)]) :
      Adds qualifier (.condition (some (value, type?)) predicate) (value.parameters inList)
  | unused {bound? : Option (Value × Option FieldType)} {predicate : String → Expr}
      (hscans : ∀ name, ∀ a ∈ (predicate name).atoms, a.Scans qualifier)
      (hslots : ∀ name, (predicate name).slots = []) :
      Adds qualifier (.condition bound? predicate) []
  | order (replace : Bool) (direction? : Option Direction) :
      Adds qualifier (.order replace direction?) []
  | group (replace : Bool) : Adds qualifier (.group replace) []

variable {qualifier : List Char}

/-- A condition that is not empty has itself for its only atom. -/
@[simp] theorem atoms_atom {a : Atom} (h : a.isEmpty = false) : (Expr.atom a).atoms = [a] := by
  simp [Expr.atoms, Expr.tokens, h, Expr.Token.atoms]

/-- A comparison takes up its value once, since the column has no placeholder. -/
theorem adds_compare {column : String} {op : CompareOp} {value : Value} {type? : Option FieldType}
    (hcolumn : Yields qualifier column.toList []) :
    (Plan.condition (some (value, type?)) (Expr.compare column op)).Adds qualifier [value] := by
  have hatoms (name : String) : (Expr.compare column op name).atoms = [.compare column op name] :=
    atoms_atom rfl
  have hparameters : value.parameters false = [value] := by
    cases value <;> rfl
  rw [← hparameters]
  refine .bound false (fun name hname a ha => ?_) fun name => ?_
  · rw [hatoms] at ha
    obtain rfl := List.mem_singleton.1 ha
    exact ⟨hcolumn, hname⟩
  · rw [Expr.slots, hatoms]
    rfl

/-- The cast behind a column is no placeholder, although it has colons. -/
theorem yields_patternTarget (hcolumn : Yields qualifier (s.qualify field).toList []) :
    Yields qualifier (patternTarget s.entity field (s.qualify field)).toList [] := by
  have hcast : Yields qualifier (s.qualify field ++ "::text").toList [] := by
    rw [String.toList_append]
    have htext : Yields qualifier ("::" ++ "text").toList [] := yields_cast (by decide +kernel)
    exact hcolumn.append htext (detached_cons (by decide) (by decide))
  rw [patternTarget]
  split
  · exact hcolumn
  · exact hcolumn
  · exact hcast

/-- A test for membership takes up the members one by one. Without members it takes up nothing,
although the empty list is bound all the same. -/
theorem adds_membership {negated : Bool} {members : List Value} {value : Value}
    {type? : Option FieldType} (hcolumn : Yields qualifier (s.qualify field).toList [])
    (hvalue : value = .list (members.map (coercedMember s.entity s.config field))) :
    (Plan.condition (some (value, type?))
      (membershipPredicate (s.qualify field) negated members)).Adds qualifier
        (members.map (coercedMember s.entity s.config field)) := by
  cases members with
  | nil =>
    -- Without members the test is decided, so the parameter is bound but not mentioned.
    have hatoms (name : String) : (membershipPredicate (s.qualify field) negated [] name).atoms =
        [if negated then .always else .never] := by
      cases negated
      · exact atoms_atom rfl
      · exact atoms_atom rfl
    refine .unused (fun name a ha => ?_) fun name => ?_
    · rw [hatoms] at ha
      obtain rfl := List.mem_singleton.1 ha
      cases negated <;> trivial
    · rw [Expr.slots, hatoms]
      cases negated <;> rfl
  | cons first rest =>
    have hatoms (name : String) :
        (membershipPredicate (s.qualify field) negated (first :: rest) name).atoms =
          [.inList (s.qualify field) name negated] :=
      atoms_atom rfl
    have hparameters : value.parameters true =
        (first :: rest).map (coercedMember s.entity s.config field) := by
      rw [hvalue]
      rfl
    rw [← hparameters]
    refine .bound true (fun name hname a ha => ?_) fun name => ?_
    · rw [hatoms] at ha
      obtain rfl := List.mem_singleton.1 ha
      exact ⟨hcolumn, hname⟩
    · rw [Expr.slots, hatoms]
      rfl

/-- A null check takes up no value. -/
theorem adds_nullCheck {isNull : Bool} (hcolumn : Yields qualifier (s.qualify field).toList []) :
    (Plan.condition none fun _ => Expr.nullCheck (s.qualify field) isNull).Adds qualifier [] := by
  have hatoms : (Expr.nullCheck (s.qualify field) isNull).atoms =
      [.nullCheck (s.qualify field) isNull] :=
    atoms_atom rfl
  refine .unused (fun name a ha => ?_) fun name => ?_
  · rw [hatoms] at ha
    obtain rfl := List.mem_singleton.1 ha
    exact hcolumn
  · rw [Expr.slots, hatoms]
    rfl

/-- A test for emptiness compares with the empty text, which it takes up once. -/
theorem adds_emptiness {empty : Bool} (hcolumn : Yields qualifier (s.qualify field).toList []) :
    (planEmptiness s field empty).Adds qualifier [.string ""] := by
  have hatoms (name : String) :
      (if empty then
        (Expr.nested (.compare (s.qualify field) (if empty then .eq else .ne) name)).orElse
          (.nested (.nullCheck (s.qualify field) empty))
      else
        (Expr.nested (.compare (s.qualify field) (if empty then .eq else .ne) name)).andThen
          (.nested (.nullCheck (s.qualify field) empty))).atoms =
        [.compare (s.qualify field) (if empty then .eq else .ne) name,
          .nullCheck (s.qualify field) empty] := by
    cases empty
    · rw [if_neg (by decide), Expr.atoms_andThen, Expr.atoms_nested, Expr.atoms_nested]
      rfl
    · rw [if_pos rfl, Expr.atoms_orElse, Expr.atoms_nested, Expr.atoms_nested]
      rfl
  have hparameters : (Value.string "").parameters false = [.string ""] := rfl
  rw [planEmptiness, ← hparameters]
  refine .bound false (fun name hname a ha => ?_) fun name => ?_
  · rw [hatoms] at ha
    rcases List.mem_cons.1 ha with rfl | ha
    · exact ⟨hcolumn, hname⟩
    · obtain rfl := List.mem_singleton.1 ha
      exact hcolumn
  · rw [Expr.slots, hatoms]
    rfl

theorem map_ok_order {args : List Value} {replace : Bool}
    (h : (directionOf args).map (Plan.order replace) = .ok plan) : plan.Adds qualifier [] := by
  obtain ⟨direction?, -, rfl⟩ := map_eq_ok h
  exact .order replace direction?

/-- The plan of a call adds the values that its operator and its arguments tell. -/
theorem adds_plan {call : ParsedCall}
    (hcolumn : Yields qualifier (s.qualify call.field).toList [])
    (h : Call.plan s method call args = .ok plan) :
    plan.Adds qualifier (values s.entity s.config call args) := by
  unfold Call.plan at h
  unfold values
  cases hoperator : call.operator <;> simp only [hoperator] at h ⊢
  case whereIs | filterBy | equal | notEqual | greaterThan | greaterThanEqual | lessThan
      | lessThanEqual =>
    obtain ⟨v, w, hv, hw, rfl⟩ := planCompare_ok h
    rw [firstArgument_ok hv, coerceArgument_ok hw]
    exact adds_compare hcolumn
  case like | notLike =>
    obtain ⟨v, hv, -, rfl⟩ := planPattern_ok h
    rw [firstArgument_ok hv]
    exact adds_compare (yields_patternTarget hcolumn)
  case isIn | notIn =>
    obtain ⟨v, w, hv, hw, rfl⟩ := planMembership_ok h
    rw [firstArgument_ok hv, List.flatMap_singleton]
    exact adds_membership hcolumn (coerceArgument_list_ok hw)
  case isEmpty | isNotEmpty =>
    cases h
    exact adds_emptiness hcolumn
  case isNull | isNotNull =>
    cases h
    exact adds_nullCheck hcolumn
  case orderBy | addOrderBy => exact map_ok_order h
  case orderAscBy | addOrderAscBy | orderDescBy | addOrderDescBy =>
    cases h
    exact .order _ _
  case groupBy | addGroupBy =>
    cases h
    exact .group _

end EntityQuery.Call
