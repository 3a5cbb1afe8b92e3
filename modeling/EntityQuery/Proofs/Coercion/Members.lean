import EntityQuery.Proofs.Calendar.Reader
import EntityQuery.Proofs.Call.Plan
import EntityQuery.Proofs.Coercion
import EntityQuery.Proofs.Names

namespace EntityQuery

variable {patterns : Patterns} {type : FieldType} {entity : EntityMeta} {config : Config}
  {field : String} {items : List Value} {value : Value} {pattern : Option String}
  {skipTemporal : Bool}

/-- The members of a list coerced one by one, each as a value of its own. The fault is that of the
first one that is refused. -/
def EntityMeta.coerceEach (entity : EntityMeta) (config : Config) (field : String)
    (items : List Value) (pattern : Option String) (skipTemporal : Bool) :
    Except ArgumentFault (List Value) :=
  items.mapM fun item => entity.coerce config field item pattern skipTemporal

/-- No pattern reads the empty text as a date or a time. -/
theorem FieldType.coerceScalar?_empty (patterns : Patterns) (h : type.isTemporal) :
    type.coerceScalar? patterns (.string "") = none := by
  cases type with
  | date => exact congrArg (Option.map Value.date) (Date.ofText?_empty patterns.date)
  | time => exact congrArg (Option.map Value.time) (Time.ofText?_empty patterns.time)
  | dateTime | dateTimeTz =>
    have hread : (Value.string "").toDateTime? patterns.dateTime = none := by
      have hpattern := DateTime.ofText?_empty patterns.dateTime
      exact (congrArg (Option.or · _) hpattern).trans Calendar.ofInterchange?_empty
    exact congrArg (Option.map Value.dateTime) hread
  | _ => cases h

/-- Inside a list the empty text is read, and by no pattern is it anything. -/
theorem FieldType.coerce_empty (patterns : Patterns) (h : type.isTemporal) :
    type.coerce patterns (.string "") = .error (.string "") := by
  rw [coerce, coerceScalar?_empty patterns h]
  all_goals
    intros
    contradiction

/-- Null and the list without members stay as they are in any case. -/
theorem FieldType.coerce_of_isEmpty (patterns : Patterns) (hvalue : value ≠ .string "")
    (h : value.isEmpty) : type.coerce patterns value = .ok value := by
  cases value with
  | null => rfl
  | list items =>
    obtain rfl : items = [] := List.isEmpty_iff.1 h
    rfl
  | string s => exact absurd (congrArg Value.string (beq_iff_eq.1 h)) hvalue
  | _ => cases h

/-- The fields whose texts are read by a pattern. -/
def EntityMeta.ReadsTexts (entity : EntityMeta) (field : String) (skipTemporal : Bool)
    (type : FieldType) : Prop :=
  entity.typeOf? field = some type ∧ type.isTemporal ∧ skipTemporal = false

/-- A date or a time may be left out by an empty text, if it is no member of a list. -/
theorem EntityMeta.coerce_empty (h : entity.ReadsTexts field skipTemporal type) :
    entity.coerce config field (.string "") pattern skipTemporal = .ok (.string "") := by
  obtain ⟨htype, htemporal, rfl⟩ := h
  rw [coerce_declared htype, htemporal]
  rfl

/-- Any other value is coerced by the declared type. A field of dates or times must not be skipped
for that. -/
theorem EntityMeta.coerce_of_ne_empty (htype : entity.typeOf? field = some type)
    (hread : type.isTemporal → skipTemporal = false) (hvalue : value ≠ .string "") :
    entity.coerce config field value pattern skipTemporal =
      (type.coerce (config.patterns pattern) value).mapError (entity.mismatch field type) := by
  rw [coerce_declared htype]
  split
  · rename_i hkeep
    obtain ⟨htemporal, hempty⟩ := Bool.and_eq_true_iff.1 hkeep
    rw [hread htemporal, Bool.false_or] at hempty
    rw [FieldType.coerce_of_isEmpty _ hvalue hempty]
    rfl
  · rfl

/-- Coercing a list is coercing its members, as the list itself is read. -/
theorem EntityMeta.coerce_list (htype : entity.typeOf? field = some type)
    (hread : type.isTemporal → skipTemporal = false) :
    entity.coerce config field (.list items) pattern skipTemporal =
      (items.mapM fun item =>
        (type.coerce (config.patterns pattern) item).mapError (entity.mismatch field type)).map
          .list := by
  rw [coerce_of_ne_empty htype hread (by nofun), FieldType.coerce, FieldType.coerceAll_eq_mapM,
    ← mapM_mapError]
  cases items.mapM (type.coerce (config.patterns pattern)) <;> rfl

/-- Values that stay as they are stay so in a list. -/
theorem EntityMeta.coerceEach_of_kept
    (h : ∀ value, entity.coerce config field value pattern skipTemporal = .ok value) :
    entity.coerceEach config field items pattern skipTemporal = .ok items := by
  simp only [coerceEach, h]
  exact (List.mapM_pure (m := Except ArgumentFault)).trans (by rw [List.map_id']; rfl)

/-- A field whose texts are not read by a pattern keeps every value, or is of no temporal type. -/
theorem EntityMeta.keeps_of_not_readsTexts
    (h : ∀ type, ¬ entity.ReadsTexts field skipTemporal type) :
    (∀ value, entity.coerce config field value pattern skipTemporal = .ok value) ∨
      ∃ type, entity.typeOf? field = some type ∧ type.isTemporal = false := by
  cases htype : entity.typeOf? field with
  | none =>
    left
    intro value
    rw [coerce, htype]
  | some type =>
    cases htemporal : type.isTemporal with
    | false => exact Or.inr ⟨type, rfl, htemporal⟩
    | true =>
      left
      intro value
      have hskip : skipTemporal = true := by
        by_contra hread
        exact h type ⟨htype, htemporal, by simpa using hread⟩
      rw [coerce_declared htype, htemporal, hskip]
      rfl

/-- A field that is not read coerces a list like its members. -/
theorem EntityMeta.coerce_list_of_not_readsTexts
    (h : ∀ type, ¬ entity.ReadsTexts field skipTemporal type) :
    entity.coerce config field (.list items) pattern skipTemporal =
      (entity.coerceEach config field items pattern skipTemporal).map .list := by
  rcases keeps_of_not_readsTexts h with hkept | ⟨type, htype, htemporal⟩
  · rw [hkept, coerceEach_of_kept hkept]
    rfl
  · have hmember (value : Value) :
        entity.coerce config field value pattern skipTemporal =
          (type.coerce (config.patterns pattern) value).mapError (entity.mismatch field type) := by
      rw [coerce_declared htype, htemporal]
      rfl
    rw [coerce_list htype (by simp [htemporal]), coerceEach]
    simp only [hmember]

/-- A list is coerced member by member if and only if its field is not read, or no empty text
is reached, or it is refused for another empty text anyway. -/
theorem EntityMeta.coerce_list_eq_iff :
    entity.coerce config field (.list items) pattern skipTemporal =
        (entity.coerceEach config field items pattern skipTemporal).map .list ↔
      ∀ type before after, entity.ReadsTexts field skipTemporal type →
        items = before ++ .string "" :: after →
        (entity.coerceEach config field before pattern skipTemporal).isOk →
        entity.coerceEach config field after pattern skipTemporal =
          .error (entity.mismatch field type (.string "")) := by
  by_cases hreads : ∃ type, entity.ReadsTexts field skipTemporal type
  · obtain ⟨type, hreads⟩ := hreads
    have hread : type.isTemporal → skipTemporal = false := fun _ => hreads.2.2
    rw [coerce_list hreads.1 hread, (map_injective (fun _ _ => Value.list.inj)).eq_iff, coerceEach,
      mapM_eq_mapM_iff (fun item hitem => (coerce_of_ne_empty hreads.1 hread hitem).symm)
        (congrArg (Except.mapError _) (FieldType.coerce_empty _ hreads.2.1)) (coerce_empty hreads)]
    refine ⟨fun h declared before after hdeclared => ?_, fun h before after => h type _ _ hreads⟩
    obtain rfl : type = declared := Option.some.inj (hreads.1.symm.trans hdeclared.1)
    exact h before after
  · rw [not_exists] at hreads
    exact iff_of_true (coerce_list_of_not_readsTexts hreads) fun type _ _ htype =>
      absurd htype (hreads type)

/-- A value is refused or given its form alone as it is as the only member of a list, but for the
empty text of a field that is read. -/
theorem EntityMeta.coerce_singleton_iff :
    (∀ bound, entity.coerce config field (.list [value]) pattern skipTemporal = .ok bound ↔
        ∃ coerced, bound = .list [coerced] ∧
          entity.coerce config field value pattern skipTemporal = .ok coerced) ↔
      ∀ type, entity.ReadsTexts field skipTemporal type → value ≠ .string "" := by
  constructor
  · rintro h type hreads rfl
    have hlist := (h (.list [.string ""])).2 ⟨_, rfl, coerce_empty hreads⟩
    rw [coerce_list hreads.1 (fun _ => hreads.2.2), mapM_singleton,
      FieldType.coerce_empty _ hreads.2.1] at hlist
    cases hlist
  · intro h bound
    have hlist : entity.coerce config field (.list [value]) pattern skipTemporal =
        (entity.coerceEach config field [value] pattern skipTemporal).map .list := by
      refine coerce_list_eq_iff.2 fun type before after hreads heq => ?_
      cases before with
      | nil => exact absurd (List.cons.inj heq).1 (h type hreads)
      | cons _ before => cases before <;> cases heq
    rw [hlist, coerceEach, mapM_singleton]
    cases entity.coerce config field value pattern skipTemporal with
    | error fault => exact iff_of_false nofun (by rintro ⟨_, -, ⟨⟩⟩)
    | ok coerced => exact ⟨fun h => ⟨_, (Except.ok.inj h).symm, rfl⟩, by rintro ⟨_, rfl, ⟨⟩⟩; rfl⟩

/-! ### Calls with one member -/

namespace Call

variable {s : Session} {method : String} {conjunction : Conjunction} {member : Value}

/-- A plan whose condition binds a value. -/
def Plan.Binds (plan : Plan) (value : Value) : Prop :=
  ∃ type? predicate, plan = .condition (some (value, type?)) predicate

/-- A call that is planned and binds a value. -/
def Accepts (s : Session) (method : String) (call : ParsedCall) (args : List Value)
    (value : Value) : Prop :=
  ∃ plan, Call.plan s method call args = .ok plan ∧ plan.Binds value

/-- A comparison accepts what coercion accepts. -/
theorem planCompare_of_ok {op : CompareOp} (h : coerceArgument s field member = .ok value) :
    planCompare s method field op [member] =
      .ok (.condition (some (value, s.entity.typeOf? field)) (.compare (s.qualify field) op)) := by
  change (coerceArgument s field member >>= _) = _
  rw [h]
  rfl

/-- A test for membership accepts what coercion accepts as a list. -/
theorem planMembership_of_ok {negated : Bool}
    (h : coerceArgument s field (.list items) = .ok value) :
    planMembership s method field negated [.list items] =
      .ok (.condition (some (value, s.entity.typeOf? field))
        (membershipPredicate (s.qualify field) negated items)) := by
  change (coerceArgument s field (.list items) >>= _) = _
  rw [h]
  rfl

/-- A comparison binds a value exactly if coercion gives it. -/
theorem accepts_equal_iff :
    Accepts s method ⟨conjunction, field, .equal⟩ [member] value ↔
      coerceArgument s field member = .ok value := by
  refine ⟨?_, fun h => ⟨_, planCompare_of_ok h, _, _, rfl⟩⟩
  rintro ⟨plan, hplan, type?, predicate, rfl⟩
  obtain ⟨v, w, hv, hw, heq⟩ := planCompare_ok hplan
  cases hv
  cases heq
  exact hw

/-- A test for membership binds a list exactly if coercion gives it. -/
theorem accepts_isIn_iff :
    Accepts s method ⟨conjunction, field, .isIn⟩ [.list items] value ↔
      coerceArgument s field (.list items) = .ok value := by
  refine ⟨?_, fun h => ⟨_, planMembership_of_ok h, _, _, rfl⟩⟩
  rintro ⟨plan, hplan, type?, predicate, rfl⟩
  obtain ⟨v, w, hv, hw, heq⟩ := planMembership_ok hplan
  cases hv
  cases heq
  exact hw

/-- A list of one member is bound as the list of that member's form, unless the member is an empty
text for a date or a time. -/
theorem coerceArgument_singleton_iff :
    (∀ bound, coerceArgument s field (.list [member]) = .ok bound ↔
        ∃ value, bound = .list [value] ∧ coerceArgument s field member = .ok value) ↔
      ∀ type, s.config.coerceArguments → s.entity.ReadsTexts field false type →
        member ≠ .string "" := by
  cases hcoerce : s.config.coerceArguments with
  | false =>
    have hkept (value : Value) : coerceArgument s field value = .ok value := by
      rw [coerceArgument, hcoerce]
      rfl
    simp [hkept, eq_comm]
  | true =>
    have hargument (value : Value) :
        coerceArgument s field value =
          (s.entity.coerce s.config field value none false).mapError .argument := by
      rw [coerceArgument, hcoerce]
      rfl
    simp only [hargument, mapError_eq_ok_iff, true_implies]
    exact EntityMeta.coerce_singleton_iff

end Call

/-! ### Lists and their members -/

/-- A list is coerced member by member, and a call with one member binds what a call with the member
alone binds. The exception to both is the empty text of a temporal field: alone it stays as it is,
in a list it is read and refused. It goes unnoticed where a member before it is refused, or where
the first to be refused behind it is another empty text. -/
theorem coerce_list_iff (entity : EntityMeta) (config : Config) (field : String)
    (items : List Value) (pattern : Option String) (skipTemporal : Bool) (s : Session)
    (asked method : String) (conjunction : Call.Conjunction) (member : Value) :
    (entity.coerce config field (.list items) pattern skipTemporal =
          (entity.coerceEach config field items pattern skipTemporal).map .list ↔
        ∀ type before after, entity.ReadsTexts field skipTemporal type →
          items = before ++ .string "" :: after →
          (entity.coerceEach config field before pattern skipTemporal).isOk →
          entity.coerceEach config field after pattern skipTemporal =
            .error (entity.mismatch field type (.string ""))) ∧
      ((∀ bound, Call.Accepts s method ⟨conjunction, asked, .isIn⟩ [.list [member]] bound ↔
          ∃ value, bound = .list [value] ∧
            Call.Accepts s method ⟨conjunction, asked, .equal⟩ [member] value) ↔
        ∀ type, s.config.coerceArguments → s.entity.ReadsTexts asked false type →
          member ≠ .string "") := by
  refine ⟨EntityMeta.coerce_list_eq_iff, ?_⟩
  simp only [Call.accepts_isIn_iff, Call.accepts_equal_iff]
  exact Call.coerceArgument_singleton_iff

/-- The empty text passes as the time at which a user was created, and is refused in a list of such
times. -/
theorem refuses_list_of_empty_text :
    Samples.user.coerceEach {} "createdAt" [.string ""] none false = .ok [.string ""] ∧
      Samples.user.coerce {} "createdAt" (.list [.string ""]) none false =
        .error (Samples.user.mismatch "createdAt" .dateTime (.string "")) := by
  have htype : Samples.user.typeOf? "createdAt" = some .dateTime := by decide +kernel
  have hreads : Samples.user.ReadsTexts "createdAt" false .dateTime := ⟨htype, rfl, rfl⟩
  constructor
  · rw [EntityMeta.coerceEach, mapM_singleton, EntityMeta.coerce_empty hreads]
    rfl
  · rw [EntityMeta.coerce_list htype (fun _ => rfl), mapM_singleton,
      FieldType.coerce_empty _ hreads.2.1]
    rfl

end EntityQuery
