import EntityQuery.Proofs.Call.Predicate
import EntityQuery.Proofs.Expr.Value
import EntityQuery.Proofs.Session.Operation

namespace EntityQuery

/-- The clauses of a selection that have a predicate. -/
inductive Clause
  | rows
  | groups
deriving DecidableEq, Repr

namespace Session

/-- The predicate of a clause, if it has one. -/
def predicate? (s : Session) : Clause → Option Expr
  | .rows => s.where?
  | .groups => s.having?

end Session

namespace Operation

/-- What an operation attaches to the predicate of a clause. -/
def attachment? (s : Session) (clause : Clause) :
    Operation → Option (Call.Conjunction × Expr)
  | attach conjunction predicate =>
    if clause = .rows then some (conjunction, predicate) else none
  | attachHaving conjunction predicate =>
    if clause = .groups then some (conjunction, predicate) else none
  | call method args => if clause = .rows then s.callAttachment? method args else none
  | _ => none

/-- Whether an operation puts a predicate in the place of the earlier one. -/
def replaces (clause : Clause) : Operation → Bool
  | setWhere _ => clause = .rows
  | setHaving _ => clause = .groups
  | _ => false

end Operation

namespace Session

/-- The session after a sequence of operations, some of which may fail. -/
def afterAll (s : Session) (operations : List Operation) : Session :=
  operations.foldl (fun s operation => operation.after s) s

/-- What a sequence of operations attaches to the predicate of a clause. -/
def attachments (clause : Clause) : Session → List Operation → List (Call.Conjunction × Expr)
  | _, [] => []
  | s, operation :: rest =>
    (operation.attachment? s clause).toList ++ attachments clause (operation.after s) rest

/-! ### One operation -/

/-- Two sessions with the same predicates. -/
structure SamePredicates (s t : Session) : Prop where
  where? : t.where? = s.where?
  having? : t.having? = s.having?

theorem SamePredicates.predicate? {s t : Session} (h : s.SamePredicates t) (clause : Clause) :
    t.predicate? clause = s.predicate? clause := by
  cases clause with
  | rows => exact h.where?
  | groups => exact h.having?

theorem samePredicates_fromEntity (s : Session) : s.SamePredicates s.fromEntity := by
  rw [fromEntity]
  split
  · exact ⟨rfl, rfl⟩
  · exact ⟨rfl, rfl⟩

theorem samePredicates_withConfig (s : Session) (config : Config) :
    s.SamePredicates ((Operation.withConfig config).after s) := by
  rw [Operation.after, Operation.run, withConfig]
  · cases config.validate with
    | error fault => exact ⟨rfl, rfl⟩
    | ok _ => exact ⟨rfl, rfl⟩
  · simp

/-- Groupings are pushed one at a time, and none of them touches a predicate. -/
theorem samePredicates_addGroupBy (s : Session) (names : List String) :
    s.SamePredicates (s.addGroupBy names) := by
  obtain ⟨resolver, groupBy, -, hgrouped⟩ := addGroupBy_eq s names
  rw [hgrouped]
  exact ⟨rfl, rfl⟩

theorem samePredicates_afterQualifyAll (s : Session) (names : List String) :
    s.SamePredicates (s.afterQualifyAll names) := by
  obtain ⟨resolver, -, hqualified⟩ := afterQualifyAll_eq s names
  rw [hqualified]
  exact ⟨rfl, rfl⟩

/-- One operation attaches its predicate behind the earlier one, and otherwise leaves the predicates
of the session alone, unless it replaces them. -/
theorem predicate?_after (s : Session) {clause : Clause} {operation : Operation}
    (h : operation.replaces clause = false) :
    (operation.after s).predicate? clause =
      Call.attached (s.predicate? clause) (operation.attachment? s clause) := by
  have hsame {t : Session} (ht : s.SamePredicates t) :
      t.predicate? clause = Call.attached (s.predicate? clause) none :=
    ht.predicate? clause
  cases operation with
  | attach conjunction predicate => cases clause <;> rfl
  | attachHaving conjunction predicate => cases clause <;> rfl
  | setWhere predicate =>
    cases clause with
    | rows => cases h
    | groups => rfl
  | setHaving predicate =>
    cases clause with
    | rows => rfl
    | groups => cases h
  | call method args =>
    cases clause with
    | rows => exact where?_apply s method args
    | groups => exact having?_apply s method args
  | withConfig config => exact hsame (samePredicates_withConfig s config)
  | fromEntity => exact hsame (samePredicates_fromEntity s)
  | selectItems names =>
    obtain ⟨hwhere, hhaving⟩ := samePredicates_afterQualifyAll s names
    exact hsame ⟨hwhere, hhaving⟩
  | addSelect names =>
    obtain ⟨hwhere, hhaving⟩ := samePredicates_afterQualifyAll s names
    exact hsame ⟨hwhere, hhaving⟩
  | setGroupBy names =>
    obtain ⟨hwhere, hhaving⟩ := samePredicates_addGroupBy { s with groupBy := [] } names
    exact hsame ⟨hwhere, hhaving⟩
  | addGroupBy names => exact hsame (samePredicates_addGroupBy s names)
  | limit max offset? =>
    exact hsame (of_window (p := s.SamePredicates) (fun _ h => limit_eq h) fun _ _ => ⟨rfl, rfl⟩)
  | paginate page perPage =>
    exact hsame (of_window (p := s.SamePredicates) (fun _ h => paginate_eq h) fun _ _ => ⟨rfl, rfl⟩)
  | paginateDefault page =>
    exact hsame (of_window (p := s.SamePredicates) (fun _ h => paginate_eq h) fun _ _ => ⟨rfl, rfl⟩)
  | _ => exact hsame ⟨rfl, rfl⟩

/-! ### A sequence of operations -/

/-- A run of operations that replaces no predicate attaches what its operations attach, from the
left. -/
theorem predicate?_afterAll (s : Session) {clause : Clause} {operations : List Operation}
    (h : ∀ operation ∈ operations, operation.replaces clause = false) :
    (s.afterAll operations).predicate? clause =
      (attachments clause s operations).foldl (fun e? a => Call.attached e? (some a))
        (s.predicate? clause) := by
  induction operations generalizing s with
  | nil => rfl
  | cons operation rest ih =>
    obtain ⟨hfirst, hrest⟩ := List.forall_mem_cons.1 h
    rw [attachments, List.foldl_append, afterAll, List.foldl_cons, ← afterAll, ih _ hrest,
      predicate?_after s hfirst]
    cases operation.attachment? s clause <;> rfl

end Session

/-! ### Values and leaves -/

namespace Expr

variable {T : Type} [Lattice T]

/-- The leaves of a predicate that may be missing. -/
def leavesOf (e? : Option Expr) : List Atom :=
  (e?.map leaves).getD []

/-- The value of a predicate that may be missing. -/
def valueOf? (i : Interpretation T) (e? : Option Expr) : Option T :=
  e?.bind (value? i)

end Expr

/-- Two truth values that are connected by a conjunction, where a missing one is neutral. Without a
conjunction they are connected like by `and`. -/
def Call.Conjunction.connect {T : Type} [Lattice T] (conjunction : Call.Conjunction)
    (x y : Option T) : Option T :=
  match conjunction with
  | .or => x.merge (· ⊔ ·) y
  | .and | .none => x.merge (· ⊓ ·) y

namespace Session

/-- A predicate that is attached brings its leaves behind the earlier ones. -/
theorem leavesOf_combine (e? : Option Expr) (conjunction : Call.Conjunction) (predicate : Expr) :
    Expr.leavesOf (some (combine e? conjunction predicate)) =
      Expr.leavesOf e? ++ predicate.leaves := by
  cases e? with
  | none => rfl
  | some existing =>
    cases conjunction with
    | or => exact existing.leaves_orElse predicate
    | and => exact existing.leaves_andThen predicate
    | none => exact existing.leaves_andThen predicate

/-- A predicate that is attached is connected with the value of the earlier ones, by its
conjunction. -/
theorem valueOf?_combine {T : Type} [Lattice T] (i : Interpretation T) (e? : Option Expr)
    (conjunction : Call.Conjunction) (predicate : Expr) :
    Expr.valueOf? i (some (combine e? conjunction predicate)) =
      conjunction.connect (Expr.valueOf? i e?) (predicate.value? i) := by
  cases e? with
  | none => cases conjunction <;> simp [combine, Call.Conjunction.connect, Expr.valueOf?]
  | some existing =>
    cases conjunction with
    | or => exact existing.value?_orElse i predicate
    | and => exact existing.value?_andThen i predicate
    | none => exact existing.value?_andThen i predicate

/-- The leaves of attached predicates stand in the order of their attachment. -/
theorem leavesOf_foldl (added : List (Call.Conjunction × Expr)) (e? : Option Expr) :
    Expr.leavesOf (added.foldl (fun e? a => Call.attached e? (some a)) e?) =
      Expr.leavesOf e? ++ added.flatMap fun a => a.2.leaves := by
  induction added generalizing e? with
  | nil => simp
  | cons first rest ih =>
    rw [List.foldl_cons, ih, Call.attached, leavesOf_combine, List.flatMap_cons, List.append_assoc]

/-- The value of attached predicates is taken from the left, without precedence of one conjunction
over the other. -/
theorem valueOf?_foldl {T : Type} [Lattice T] (i : Interpretation T)
    (added : List (Call.Conjunction × Expr)) (e? : Option Expr) :
    Expr.valueOf? i (added.foldl (fun e? a => Call.attached e? (some a)) e?) =
      added.foldl (fun x a => a.1.connect x (a.2.value? i)) (Expr.valueOf? i e?) := by
  induction added generalizing e? with
  | nil => rfl
  | cons first rest ih => rw [List.foldl_cons, ih, Call.attached, valueOf?_combine, List.foldl_cons]

/-- After any sequence of operations that does not replace it, the predicate of a clause has the
leaves of the initial one and of all attached ones, in the order in which they were attached, and
under every interpretation the value of the attached predicates taken from the left. -/
theorem predicate?_foldl_attachments (s : Session) (clause : Clause) (operations : List Operation)
    (h : ∀ operation ∈ operations, operation.replaces clause = false) :
    Expr.leavesOf ((s.afterAll operations).predicate? clause) =
        Expr.leavesOf (s.predicate? clause) ++
          (attachments clause s operations).flatMap (fun a => a.2.leaves) ∧
      ∀ (T : Type) [Lattice T] (i : Interpretation T),
        Expr.valueOf? i ((s.afterAll operations).predicate? clause) =
          (attachments clause s operations).foldl (fun x a => a.1.connect x (a.2.value? i))
            (Expr.valueOf? i (s.predicate? clause)) := by
  rw [predicate?_afterAll s h]
  exact ⟨leavesOf_foldl _ _, fun T _ i => valueOf?_foldl i _ _⟩

/-- A test that consists of two, a predicate that says nothing, and two more tests. -/
def sampleAttachments : List Operation :=
  [.call "nameIsEmpty" [], .attach .and (.raw " "), .call "orIdIn" [.list [.int 1, .int 2]],
    .call "createdAtIsNotNull" []]

/-- The four operations of the sample, of which the first attaches two tests and the second says
nothing. -/
theorem predicate?_foldl_attachments_sample :
    (∀ operation ∈ sampleAttachments, operation.replaces .rows = false) ∧
      Expr.leavesOf (((new Samples.user).afterAll sampleAttachments).predicate? .rows) =
        [.compare "u.name" .eq "p0", .nullCheck "u.name" true, .raw " ",
          .inList "u.id" "p1" false, .nullCheck "u.createdAt" false] ∧
      Expr.valueOf? (.twoValued (· = .nullCheck "u.name" true))
        (((new Samples.user).afterAll sampleAttachments).predicate? .rows) = some false := by
  have hkeeps : ∀ operation ∈ sampleAttachments, operation.replaces .rows = false := by decide
  obtain ⟨hleaves, hvalue⟩ :=
    predicate?_foldl_attachments (new Samples.user) .rows sampleAttachments hkeeps
  exact ⟨hkeeps, hleaves.trans (by decide +kernel), (hvalue Bool _).trans (by decide +kernel)⟩

end Session

end EntityQuery
