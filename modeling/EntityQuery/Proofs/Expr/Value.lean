import EntityQuery.Proofs.Expr.Tokens
import Mathlib.Data.Fintype.Order

namespace EntityQuery

/-- Truth values for the atoms, and the negation of truth values. Truth values form a lattice, whose
meet and join are the two connectives. -/
structure Interpretation (T : Type) where
  atom : Atom → T
  negate : T → T

/-- An interpretation with two truth values. -/
def Interpretation.twoValued (holds : Atom → Bool) : Interpretation Bool :=
  ⟨holds, fun b => !b⟩

namespace Expr

mutual

/-- The atoms of a predicate from left to right, including those that say nothing. -/
def leaves : Expr → List Atom
  | .atom a => [a]
  | .and items => allLeaves items
  | .or items => allLeaves items
  | .not inner => leaves inner
  | .nested inner => leaves inner

/-- The atoms of several predicates. -/
def allLeaves : List Expr → List Atom
  | [] => []
  | item :: rest => leaves item ++ allLeaves rest

end

section Value

variable {T : Type} [Lattice T]

mutual

/-- The truth value of a predicate. One that contains no condition has none, and a part without a
value is absent from its group. -/
def value? (i : Interpretation T) : Expr → Option T
  | .atom a => if a.isEmpty then none else some (i.atom a)
  | .and items => groupValue? i (· ⊓ ·) items
  | .or items => groupValue? i (· ⊔ ·) items
  | .not inner => (value? i inner).map i.negate
  | .nested inner => value? i inner

/-- The values of several predicates, combined where there are any. -/
def groupValue? (i : Interpretation T) (op : T → T → T) : List Expr → Option T
  | [] => none
  | item :: rest => (value? i item).merge op (groupValue? i op rest)

end

end Value

/-- The recursion over the parts of a group collects their leaves in order. -/
theorem allLeaves_eq_flatMap (items : List Expr) : allLeaves items = items.flatMap leaves := by
  induction items with
  | nil => rfl
  | cons item rest ih => simp [allLeaves, ih]

/-! ### Predicates that contain no condition -/

/-- A predicate contains no condition exactly if all its leaves are empty. -/
theorem isEmpty_iff_leaves (e : Expr) : e.isEmpty ↔ ∀ a ∈ e.leaves, a.isEmpty := by
  induction e using Expr.inductionOn with
  | atom a => simp [isEmpty, leaves]
  | and items ih =>
    rw [isEmpty, allEmpty_eq_all, List.all_eq_true, leaves, allLeaves_eq_flatMap,
      List.forall_mem_flatMap]
    exact forall₂_congr ih
  | or items ih =>
    rw [isEmpty, allEmpty_eq_all, List.all_eq_true, leaves, allLeaves_eq_flatMap,
      List.forall_mem_flatMap]
    exact forall₂_congr ih
  | not inner ih => rw [isEmpty, leaves, ih]
  | nested inner ih => rw [isEmpty, leaves, ih]

variable {T : Type} [Lattice T] (i : Interpretation T)

/-- A group has no value exactly if none of its parts has. -/
theorem groupValue?_eq_none_iff (op : T → T → T) (items : List Expr) :
    groupValue? i op items = none ↔ ∀ item ∈ items, item.value? i = none := by
  induction items with
  | nil => simp [groupValue?]
  | cons item rest ih => simp [groupValue?, ih]

/-- A predicate has a value exactly if it contains a condition, under every interpretation. -/
theorem value?_eq_none_iff (e : Expr) : e.value? i = none ↔ e.isEmpty := by
  induction e using Expr.inductionOn with
  | atom a => simp [value?, isEmpty]
  | and items ih =>
    rw [value?, groupValue?_eq_none_iff, isEmpty, allEmpty_eq_all, List.all_eq_true]
    exact forall₂_congr ih
  | or items ih =>
    rw [value?, groupValue?_eq_none_iff, isEmpty, allEmpty_eq_all, List.all_eq_true]
    exact forall₂_congr ih
  | not inner ih => rw [value?, Option.map_eq_none_iff, ih, isEmpty]
  | nested inner ih => rw [value?, ih, isEmpty]

/-! ### Attached predicates -/

/-- Attaching a predicate keeps the leaves of both in order, whether or not the first one is
extended as a group. -/
theorem leaves_andThen (first second : Expr) :
    (first.andThen second).leaves = first.leaves ++ second.leaves := by
  cases first with
  | and items => simp [andThen, leaves, allLeaves_eq_flatMap]
  | _ => simp [andThen, leaves, allLeaves_eq_flatMap]

theorem leaves_orElse (first second : Expr) :
    (first.orElse second).leaves = first.leaves ++ second.leaves := by
  cases first with
  | or items => simp [orElse, leaves, allLeaves_eq_flatMap]
  | _ => simp [orElse, leaves, allLeaves_eq_flatMap]

omit [Lattice T] in
theorem merge_assoc (op : T → T → T) [Std.Associative op] (x y z : Option T) :
    (x.merge op y).merge op z = x.merge op (y.merge op z) :=
  Std.Associative.assoc x y z

/-- A group with further parts has the merged value of the parts and the further ones. -/
theorem groupValue?_append (op : T → T → T) [Std.Associative op] (items more : List Expr) :
    groupValue? i op (items ++ more) =
      (groupValue? i op items).merge op (groupValue? i op more) := by
  induction items with
  | nil => simp [groupValue?]
  | cons item rest ih =>
    rw [List.cons_append, groupValue?, groupValue?, ih, merge_assoc]

theorem groupValue?_singleton (op : T → T → T) (item : Expr) :
    groupValue? i op [item] = item.value? i := by
  simp [groupValue?]

/-- Attaching a second predicate by a conjunction gives the meet of the two values, and where one of
them contains no condition the value of the other. -/
theorem value?_andThen (first second : Expr) :
    (first.andThen second).value? i = (first.value? i).merge (· ⊓ ·) (second.value? i) := by
  have hpair : groupValue? i (· ⊓ ·) [first, second] =
      (first.value? i).merge (· ⊓ ·) (second.value? i) := by
    rw [groupValue?, groupValue?_singleton]
  cases first with
  | and items => rw [andThen, value?, groupValue?_append, groupValue?_singleton, value?]
  | _ => exact hpair

/-- By a disjunction it gives the join. -/
theorem value?_orElse (first second : Expr) :
    (first.orElse second).value? i = (first.value? i).merge (· ⊔ ·) (second.value? i) := by
  have hpair : groupValue? i (· ⊔ ·) [first, second] =
      (first.value? i).merge (· ⊔ ·) (second.value? i) := by
    rw [groupValue?, groupValue?_singleton]
  cases first with
  | or items => rw [orElse, value?, groupValue?_append, groupValue?_singleton, value?]
  | _ => exact hpair

end Expr

end EntityQuery
