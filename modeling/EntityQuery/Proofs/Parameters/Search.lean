import EntityQuery.Proofs.Parameters.Allocation

namespace EntityQuery.ParamTable

variable {table : ParamTable} {base : String}

/-- The search without a limit, from number `i` on: as long as a name is taken it goes on with the
next number. It ends at number `j`, having tried so many names. -/
inductive Searches (table : ParamTable) (base : String) : Nat → Nat → Nat → Prop
  | free {i : Nat} (hfree : table.hasKey (candidate base i) = false) : Searches table base i i 1
  | taken {i j tried : Nat} (htaken : table.hasKey (candidate base i))
      (rest : Searches table base (i + 1) j tried) : Searches table base i j (tried + 1)

/-- An allocation under a base, with the name and the table that it gives: the search ends, after
one name more than there are parameters at most, at the least number whose name is free, and this
name is the only key that is added. -/
structure Allocates (table : ParamTable) (base : String) (i : Nat) (name : String)
    (later : ParamTable) : Prop where
  searches : table.Searches base 0 i (i + 1)
  tried_le : i + 1 ≤ table.size + 1
  name_eq : name = candidate base i
  free : table.hasKey name = false
  least : ∀ k, table.hasKey (candidate base k) = false → i ≤ k
  hasKey_iff : ∀ key, later.hasKey key ↔ key = name ∨ table.hasKey key
  size_eq : later.size = table.size + 1
  kept : ∀ key, key ≠ name → later.entries.lookup key = table.entries.lookup key
  reserved : later.entries.lookup name = some (.of name .null none)

/-- Allocations under one base, with bindings that are made in front of each of them. -/
def allocateAll (base : String) : List (List (String × Binding)) → ParamTable →
    List String × ParamTable
  | [], table => ([], table)
  | bindings :: rest, table =>
    let (name, reserved) := (table.append bindings).allocate base
    let (names, later) := allocateAll base rest reserved
    (name :: names, later)

/-! ### One allocation -/

/-- The search passes taken names and ends at a free one. -/
theorem searches_iff {i j tried : Nat} :
    table.Searches base i j tried ↔ i ≤ j ∧ tried = j - i + 1 ∧
      (∀ k, i ≤ k → k < j → table.hasKey (candidate base k)) ∧
      table.hasKey (candidate base j) = false := by
  constructor
  · intro h
    induction h with
    | free hfree => exact ⟨le_refl _, by omega, fun k hle hlt => by omega, hfree⟩
    | @taken i j tried htaken _ ih =>
      obtain ⟨hle, htried, hpassed, hfree⟩ := ih
      refine ⟨by omega, by omega, fun k hk hlt => ?_, hfree⟩
      rcases Nat.eq_or_lt_of_le hk with rfl | hk
      · exact htaken
      · exact hpassed k hk hlt
  · rintro ⟨hle, rfl, hpassed, hfree⟩
    -- On the number of names that are passed.
    obtain ⟨n, rfl⟩ := Nat.exists_eq_add_of_le hle
    induction n generalizing i with
    | zero =>
      rw [Nat.add_zero, Nat.sub_self]
      exact .free hfree
    | succ n ih =>
      have hshift : i + (n + 1) = i + 1 + n := by omega
      rw [hshift] at hpassed hfree hle ⊢
      have hrest := ih (by omega) (fun k hk => hpassed k (by omega)) hfree
      have htried : i + 1 + n - i + 1 = i + 1 + n - (i + 1) + 1 + 1 := by omega
      rw [htried]
      exact .taken (hpassed i (le_refl _) (by omega)) hrest

/-- The search does not go beyond its fuel. -/
theorem freeFrom_le (table : ParamTable) (base : String) (fuel i : Nat) :
    table.freeFrom base fuel i ≤ i + fuel := by
  induction fuel generalizing i with
  | zero => exact le_refl _
  | succ fuel ih =>
    rw [freeFrom]
    split
    · have hrest := ih (i + 1)
      omega
    · omega

/-- As many steps as there are entries are enough for it, since every number that it passes is taken
by an entry of its own. -/
theorem freeIndex_le_size (table : ParamTable) (base : String) :
    table.freeIndex base ≤ table.size := by
  have h := freeFrom_le table base table.size 0
  rwa [Nat.zero_add] at h

/-- All names in front of the one that is found are taken. -/
theorem hasKey_of_lt_freeIndex {k : Nat} (h : k < table.freeIndex base) :
    table.hasKey (candidate base k) :=
  (freeFrom_spec table base table.size 0).2.1 k (Nat.zero_le k) h

/-- From zero on, the search ends at the number that an allocation takes, and it has tried one name
more by then than the number says. -/
theorem searches_freeIndex (table : ParamTable) (base : String) :
    table.Searches base 0 (table.freeIndex base) (table.freeIndex base + 1) :=
  searches_iff.2
    ⟨Nat.zero_le _, rfl, fun _ _ => hasKey_of_lt_freeIndex, hasKey_freeIndex table base⟩

theorem allocate_eq (table : ParamTable) (base : String) :
    table.allocate base = (table.fresh base,
      ⟨Keyed.insert (table.fresh base) (.of (table.fresh base) .null none) table.entries⟩) :=
  rfl

/-- An allocation takes the least free number and adds its name as a key, and nothing else. -/
theorem allocates_allocate (table : ParamTable) (base : String) :
    table.Allocates base (table.freeIndex base) (table.allocate base).1
      (table.allocate base).2 := by
  rw [allocate_eq]
  have hperm := Keyed.insert_perm (fresh_notMem_keys table base)
    (Parameter.of (table.fresh base) .null none)
  exact
    { searches := searches_freeIndex table base
      tried_le := Nat.succ_le_succ (freeIndex_le_size table base)
      name_eq := rfl
      free := hasKey_freeIndex table base
      least := fun k hfree => Nat.le_of_not_lt fun hlt => by
        rw [hasKey_of_lt_freeIndex hlt] at hfree
        cases hfree
      hasKey_iff := fun key => hasKey_keyed_insert table _ key _
      size_eq := hperm.length_eq
      kept := fun _ hne => Keyed.lookup_insert_of_ne hne _ _
      reserved := Keyed.lookup_insert_self _ _ _ }

/-! ### Several allocations -/

/-- After an allocation no number up to the one that was found gives a free name. -/
theorem Allocates.hasKey_of_le {i k : Nat} {name : String} {later : ParamTable}
    (h : table.Allocates base i name later) (hle : k ≤ i) : later.hasKey (candidate base k) := by
  rw [h.hasKey_iff, h.name_eq]
  rcases Nat.eq_or_lt_of_le hle with rfl | hlt
  · exact Or.inl rfl
  · exact Or.inr ((searches_iff.1 h.searches).2.2.1 k (Nat.zero_le k) hlt)

theorem Allocates.keysIn {i : Nat} {name : String} {later : ParamTable}
    (h : table.Allocates base i name later) : table.KeysIn later :=
  fun key hkey => (h.hasKey_iff key).2 (Or.inr hkey)

/-- The numbers of the generated names increase, and none of their names was taken at first. -/
theorem exists_indices_allocateAll (base : String) (batches : List (List (String × Binding)))
    (table : ParamTable) :
    ∃ indices : List Nat, (allocateAll base batches table).1 = indices.map (candidate base) ∧
      indices.length = batches.length ∧ indices.Pairwise (· < ·) ∧
      ∀ i ∈ indices, table.hasKey (candidate base i) = false := by
  induction batches generalizing table with
  | nil => exact ⟨[], rfl, rfl, .nil, fun i hi => by cases hi⟩
  | cons bindings rest ih =>
    have hkeys := keysIn_append table bindings
    have hfirst := allocates_allocate (table.append bindings) base
    obtain ⟨indices, hnames, hlength, hincreasing, hfree⟩ :=
      ih ((table.append bindings).allocate base).2
    refine ⟨(table.append bindings).freeIndex base :: indices, ?_, ?_, ?_, ?_⟩
    · rw [allocateAll, List.map_cons, ← hnames]
      rfl
    · rw [List.length_cons, hlength, List.length_cons]
    · refine List.pairwise_cons.2 ⟨fun i hi => Nat.lt_of_not_le fun hle => ?_, hincreasing⟩
      have htaken := hfirst.hasKey_of_le hle
      rw [hfree i hi] at htaken
      cases htaken
    · have hnew : ∀ i, (table.append bindings).hasKey (candidate base i) = false →
          table.hasKey (candidate base i) = false := fun i hi => by
        rw [Bool.eq_false_iff] at hi ⊢
        exact fun htaken => hi (hkeys _ htaken)
      refine List.forall_mem_cons.2 ⟨hnew _ (hasKey_freeIndex _ _), fun i hi => hnew i ?_⟩
      have hlater := hfree i hi
      rw [Bool.eq_false_iff] at hlater ⊢
      exact fun htaken => hlater (hfirst.keysIn _ htaken)

/-- Every allocation finds the least number whose name is free, after one name more than there are
parameters at most, and adds its name only. Allocations under one base, whatever is bound in front
of each of them, give names that differ and whose numbers increase. -/
theorem allocates_increasing (table : ParamTable) (base : String) :
    (∃ i, table.Allocates base i (table.allocate base).1 (table.allocate base).2) ∧
    ∀ batches : List (List (String × Binding)), ∃ indices : List Nat,
      (allocateAll base batches table).1 = indices.map (candidate base) ∧
      indices.length = batches.length ∧ indices.Pairwise (· < ·) ∧
      (allocateAll base batches table).1.Nodup ∧
      ∀ name ∈ (allocateAll base batches table).1, table.hasKey name = false := by
  refine ⟨⟨_, allocates_allocate table base⟩, fun batches => ?_⟩
  obtain ⟨indices, hnames, hlength, hincreasing, hfree⟩ :=
    exists_indices_allocateAll base batches table
  refine ⟨indices, hnames, hlength, hincreasing, ?_, ?_⟩
  · rw [hnames]
    exact (hincreasing.imp Nat.ne_of_lt).map _ fun _ _ => (candidate_injective base).ne
  · rw [hnames]
    simpa using hfree

/-- The search fills the gap in front of a name that was bound before, and passes that name. -/
example : (allocateAll "p" [[("p1", .value .null)], [], []] {}).1 = ["p0", "p2", "p3"] := by
  decide +kernel

end EntityQuery.ParamTable
