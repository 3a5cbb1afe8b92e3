import EntityQuery.Proofs.Alias
import EntityQuery.Proofs.Call.Predicate
import EntityQuery.Proofs.Call.Steps
import EntityQuery.Proofs.Session.Operation

namespace EntityQuery

namespace Session

/-- A name that was qualified is qualified once more, which changes nothing. -/
theorem afterQualify_afterQualify (s : Session) (name : String) :
    (s.afterQualify name).afterQualify name = s.afterQualify name :=
  congrArg (fun resolver => { s with resolver }) (s.resolver.afterQualify_afterQualify name)

/-- The field of a call is spelled in the same way before and after its alias was needed. -/
theorem qualify_afterQualify (s : Session) (name : String) :
    (s.afterQualify name).qualify name = s.qualify name :=
  s.resolver.qualify_afterQualify name name

end Session

namespace Call

/-- The session after a call: all parts are those of the session before, but for the condition, the
ordering or the grouping, for the parameters when a value is bound, and for the alias, which may
have been fixed. The condition names no placeholder but the new one, and the other parameters are
kept. -/
inductive Effect (s : Session) (call : ParsedCall) (args : List Value) : Session → Prop
  | bound {resolver : AliasResolver} {params : ParamTable} {name : String} {value : Value}
      {type? : Option FieldType} {predicate : Expr}
      (hpart : call.operator.part = .condition) (htype : boundType? s.entity call = some type?)
      (halias : resolver = s.resolver ∨ resolver = s.resolver.fix)
      (hfresh : name ∉ s.params.entries.map Prod.fst)
      (hparams : params.entries.Perm ((name, { name, value, type? }) :: s.params.entries))
      (hpredicate : predicateOf? s call args name = some predicate)
      (hnames : ∀ p ∈ predicate.params, p = name) :
      Effect s call args
        { s with
          resolver, params
          where? := some (Session.combine s.where? call.conjunction predicate) }
  | unbound {resolver : AliasResolver} {predicate : Expr}
      (hpart : call.operator.part = .condition) (htype : boundType? s.entity call = none)
      (halias : resolver = s.resolver ∨ resolver = s.resolver.fix)
      (hpredicate : ∀ name, predicateOf? s call args name = some predicate)
      (hnames : predicate.params = []) :
      Effect s call args
        { s with
          resolver
          where? := some (Session.combine s.where? call.conjunction predicate) }
  | ordered {resolver : AliasResolver} {replaces : Bool} {direction? : Option Direction}
      (hpart : call.operator.part = .ordering replaces)
      (halias : resolver = s.resolver ∨ resolver = s.resolver.fix) :
      Effect s call args
        { s with
          resolver
          orderBy := (if replaces then [] else s.orderBy) ++
            [{ text := s.qualify call.field, direction? }] }
  | grouped {resolver : AliasResolver} {replaces : Bool}
      (hpart : call.operator.part = .grouping replaces)
      (halias : resolver = s.resolver ∨ resolver = s.resolver.fix) :
      Effect s call args
        { s with
          resolver
          groupBy := (if replaces then [] else s.groupBy) ++ [s.qualify call.field] }

variable {s t : Session} {method : String} {args : List Value} {call : ParsedCall} {plan : Plan}

/-- Carrying out a plan that belongs to the operator of a call has the effect of the call. -/
theorem effect_of_fits (hconfig : s.config.validate = .ok ())
    (h : plan.Fits (s.afterQualify call.field) call args) :
    Effect s call args (perform (s.afterQualify call.field) call plan) := by
  have halias := s.resolver.afterQualify_cases call.field
  have hentity : (s.afterQualify call.field).entity = s.entity :=
    s.resolver.entity_afterQualify call.field
  cases h with
  | bound hpart htype hpredicate hnames =>
    have hcolons := leadingColons_of_isAsciiWord (Session.isAsciiWord_paramBase hconfig)
    rw [hentity] at htype
    exact .bound hpart htype halias (s.params.fresh_notMem_keys s.config.paramBase)
      (s.params.entries_bind_perm hcolons _ _)
      ((predicateOf?_afterQualify _ _).symm.trans (hpredicate _)) (hnames _)
  | unbound hpart htype hpredicate hnames =>
    rw [hentity] at htype
    exact .unbound hpart htype halias
      (fun name => (predicateOf?_afterQualify _ _).symm.trans (hpredicate name)) hnames
  | order hpart =>
    simp only [perform, Session.pushOrder, Session.afterQualify_afterQualify,
      Session.qualify_afterQualify]
    exact .ordered hpart halias
  | group hpart =>
    simp only [perform, Session.pushGroup, Session.afterQualify_afterQualify,
      Session.qualify_afterQualify]
    exact .grouped hpart halias

/-- A dynamic call that succeeds has the effect of the call that its name stands for, and its steps
have that effect together when they are carried out one by one. The configuration has to be valid,
since the new name is only free when the base of names has no colon. -/
theorem effect_of_call (hconfig : s.config.validate = .ok ()) (hcall : s.call method args = .ok t) :
    ∃ call, Call.parse s.entity method args.length = .ok call ∧
      (stepwise method args).run s = .ok () t ∧ Effect s call args t := by
  have hsteps := run_stepwise_of_call hcall
  obtain ⟨call, plan, hparse, hplan, rfl⟩ := Session.call_ok hcall
  exact ⟨call, hparse, hsteps, effect_of_fits hconfig (fits_of_plan hplan)⟩

/-- A name that is taken stays bound as it was, and the empty text is bound under the next one. -/
theorem effect_of_call_nameIsEmpty :
    let s := (Session.new Samples.user).setParameter "p0" (.string "kept") none
    s.config.validate = .ok () ∧ ∃ t, s.call "nameIsEmpty" [] = .ok t ∧
      ∃ call, Call.parse s.entity "nameIsEmpty" 0 = .ok call ∧
        (stepwise "nameIsEmpty" []).run s = .ok () t ∧ Effect s call [] t := by
  intro s
  have hconfig : s.config.validate = .ok () := Session.validate_default
  have hsome : (s.call "nameIsEmpty" []).toOption.isSome := by decide +kernel
  obtain ⟨t, hcall⟩ := exists_ok_of_isSome hsome
  exact ⟨hconfig, t, hcall, effect_of_call hconfig hcall⟩

end Call

end EntityQuery
