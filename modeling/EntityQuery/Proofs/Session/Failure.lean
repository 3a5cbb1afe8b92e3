import EntityQuery.Proofs.Call.Grammar
import EntityQuery.Proofs.Call.Steps
import EntityQuery.Proofs.Names
import EntityQuery.Proofs.Results
import EntityQuery.Session.Build

namespace EntityQuery

/-! ### Refused plans -/

namespace Call

variable {s : Session} {method field : String} {args : List Value} {e : QueryError}

/-- A value that cannot be coerced is a fault of the argument. -/
theorem coerceArgument_error {value : Value} (h : coerceArgument s field value = .error e) :
    ∃ fault, e = .argument fault := by
  rw [coerceArgument] at h
  split at h
  · obtain ⟨fault, -, rfl⟩ := mapError_eq_error h
    exact ⟨fault, rfl⟩
  · cases h

theorem firstArgument_ne_error (hargs : args ≠ []) : firstArgument method args ≠ .error e := by
  cases args with
  | nil => exact absurd rfl hargs
  | cons value rest => nofun

/-- A comparison is refused for the coercion of its argument only. -/
theorem planCompare_error {op : CompareOp} (hargs : args ≠ [])
    (h : planCompare s method field op args = .error e) : ∃ fault, e = .argument fault := by
  rcases bind_eq_error h with hfirst | ⟨value, -, h⟩
  · exact absurd hfirst (firstArgument_ne_error hargs)
  · rcases bind_eq_error h with hcoerce | ⟨coerced, -, h⟩
    · exact coerceArgument_error hcoerce
    · cases h

/-- A pattern test is refused for its argument only: a list is not a pattern. -/
theorem planPattern_error {op : CompareOp} (hargs : args ≠ [])
    (h : planPattern s method field op args = .error e) : ∃ fault, e = .argument fault := by
  rcases bind_eq_error h with hfirst | ⟨value, -, h⟩
  · exact absurd hfirst (firstArgument_ne_error hargs)
  · -- Only a list is no pattern.
    cases value with
    | list items =>
      cases h
      exact ⟨_, rfl⟩
    | _ => cases h

/-- A membership test is refused for the coercion of its members only. -/
theorem planMembership_error {negated : Bool} (hargs : args ≠ [])
    (h : planMembership s method field negated args = .error e) : ∃ fault, e = .argument fault := by
  rcases bind_eq_error h with hfirst | ⟨value, -, h⟩
  · exact absurd hfirst (firstArgument_ne_error hargs)
  · rcases bind_eq_error h with hcoerce | ⟨coerced, -, h⟩
    · exact coerceArgument_error hcoerce
    · cases h

/-- An ordering is refused for the word of its direction only. -/
theorem directionOf_error (h : directionOf args = .error e) : ∃ fault, e = .argument fault := by
  unfold directionOf at h
  split at h
  · cases h
  · cases h
  · split at h
    · cases h
    · cases h
      exact ⟨_, rfl⟩
  · cases h
    exact ⟨_, rfl⟩

/-- A plan is refused for its arguments only, once there are as many as the operator requires. -/
theorem argument_of_plan_error {call : ParsedCall}
    (hargs : call.operator.requiresArgument → args ≠ [])
    (h : Call.plan s method call args = .error e) : ∃ fault, e = .argument fault := by
  unfold Call.plan at h
  cases hoperator : call.operator <;> simp only [hoperator] at h hargs
  case whereIs | filterBy | equal | notEqual | greaterThan | greaterThanEqual | lessThan
      | lessThanEqual => exact planCompare_error (hargs (by decide)) h
  case like | notLike => exact planPattern_error (hargs (by decide)) h
  case isIn | notIn => exact planMembership_error (hargs (by decide)) h
  case orderBy | addOrderBy => exact directionOf_error (map_eq_error h)
  all_goals cases h

end Call

/-! ### Refused calls -/

namespace Session

variable {s : Session} {method : String} {args : List Value} {e : QueryError}

/-- A call fails where its name is read, or where it is planned. It has fixed the alias then, if
its field needs the alias to be qualified. -/
theorem apply_error_cases (h : (s.apply method args).1 = .error e) :
    (Call.parse s.entity method args.length = .error e ∧ (s.apply method args).2 = s) ∨
      ∃ call, Call.parse s.entity method args.length = .ok call ∧
        Call.plan (s.afterQualify call.field) method call args = .error e ∧
        (s.apply method args).2 = s.afterQualify call.field := by
  unfold apply at h ⊢
  cases hparse : Call.parse s.entity method args.length with
  | error fault =>
    simp only [hparse] at h ⊢
    cases h
    exact Or.inl ⟨rfl, trivial⟩
  | ok call =>
    simp only [hparse] at h ⊢
    cases hplan : Call.plan (s.afterQualify call.field) method call args with
    | error fault =>
      simp only [hplan] at h ⊢
      cases h
      exact Or.inr ⟨call, rfl, hplan, rfl⟩
    | ok plan =>
      simp only [hplan] at h
      cases h

/-- Nothing was asked for between two sessions: they consist of the same parts, they have the same
alias, and they give the same text and the same statements. Only the alias may be fixed in one. -/
structure Unchanged (s t : Session) : Prop where
  config : t.config = s.config
  entity : t.entity = s.entity
  kind : t.kind = s.kind
  select : t.select = s.select
  distinct : t.distinct = s.distinct
  joins : t.joins = s.joins
  where? : t.where? = s.where?
  having? : t.having? = s.having?
  groupBy : t.groupBy = s.groupBy
  orderBy : t.orderBy = s.orderBy
  set : t.set = s.set
  params : t.params = s.params
  maxResults? : t.maxResults? = s.maxResults?
  firstResult? : t.firstResult? = s.firstResult?
  entityAlias : t.entityAlias = s.entityAlias
  toText : t.toText = s.toText
  build : t.build = s.build
  buildCount : t.buildCount = s.buildCount

theorem Unchanged.refl (s : Session) : s.Unchanged s := by
  constructor <;> rfl

/-- Statements are written with the alias that the session has or would get. -/
theorem unchanged_fixAlias (s : Session) : s.Unchanged s.fixAlias := by
  constructor <;> rfl

/-- To qualify a name changes nothing but whether the alias is fixed. -/
theorem unchanged_afterQualify (s : Session) (name : String) :
    s.Unchanged (s.afterQualify name) := by
  rw [afterQualify, AliasResolver.afterQualify]
  split
  · exact unchanged_fixAlias s
  · exact .refl s

/-- A call that fails leaves the session as it was, also when its steps are carried out one by one
and an earlier one has bound a value already. A call whose name was read for these arguments can
only fail for the arguments. -/
theorem unchanged_of_apply_error (h : (s.apply method args).1 = .error e) :
    (Call.stepwise method args).run s = .error e (s.apply method args).2 ∧
      s.Unchanged (s.apply method args).2 ∧
      ∀ call, Call.parse s.entity method args.length = .ok call → ∃ fault, e = .argument fault := by
  refine ⟨Call.run_stepwise_of_apply_error h, ?_⟩
  rcases apply_error_cases h with ⟨hparse, hsame⟩ | ⟨call, hparse, hplan, hqualified⟩
  · refine ⟨by rw [hsame]; exact .refl s, fun call hcall => ?_⟩
    rw [hparse] at hcall
    cases hcall
  · refine ⟨by rw [hqualified]; exact unchanged_afterQualify s call.field, fun _ _ => ?_⟩
    obtain ⟨-, -, -, -, -, -, hcount, -⟩ := Call.parse_ok hparse
    refine Call.argument_of_plan_error (fun hrequired hnil => hcount hrequired ?_) hplan
    rw [hnil, List.length_nil]

/-- A user's identifier is no word, so the call is refused and has fixed the alias. -/
theorem unchanged_of_apply_error_mismatch :
    let s := new Samples.user
    let refused := s.apply "idEqual" [.string "x"]
    refused.1 = .error (.argument (.mismatch "User" "id" .bigInt .string "x")) ∧
      s.resolver.fixed? = none ∧ refused.2.resolver.fixed? = some "u" ∧
      Call.parse s.entity "idEqual" 1 = .ok ⟨.none, "id", .equal⟩ ∧
      (Call.stepwise "idEqual" [.string "x"]).run s =
        .error (.argument (.mismatch "User" "id" .bigInt .string "x")) refused.2 ∧
      s.Unchanged refused.2 := by
  have hrefused : ((new Samples.user).apply "idEqual" [.string "x"]).1 =
      .error (.argument (.mismatch "User" "id" .bigInt .string "x")) := by
    decide +kernel
  obtain ⟨hsteps, hunchanged, -⟩ := unchanged_of_apply_error hrefused
  exact ⟨hrefused, rfl, by decide +kernel, by decide +kernel, hsteps, hunchanged⟩

end Session

end EntityQuery
