import EntityQuery.Proofs.Call.Grammar
import EntityQuery.Proofs.Names

namespace EntityQuery.Call

/-- The first character of a name is a small ASCII letter. -/
def startsLower (name : List Char) : Bool :=
  name.head?.any Char.isLower

/-- A name with a capital in front. -/
def capitalized (name : String) : String :=
  .ofList (name.toList.modifyHead Char.toUpper)

/-- The name of a method with a conjunction, if any, in front of the rest. -/
def Conjunction.spell (conjunction : Conjunction) (name : String) : String :=
  match conjunction with
  | .and => "and" ++ capitalized name
  | .or => "or" ++ capitalized name
  | .none => name

/-- Nothing in a name that ends in a comparison keyword takes precedence over the keyword: neither
a structural keyword nor a longer one, nor a conjunction where none was meant. -/
structure Unambiguous (conjunction : Conjunction) (entry : Entry) (name : List Char) : Prop where
  not_structural : ∀ other ∈ structuralTable.entries, ∀ part, ¬ Leads other.keyword name part
  not_longer : ∀ other ∈ comparisonTable.entries, entry.keyword.length < other.keyword.length →
    ∀ part, ¬ Trails other.keyword name part
  not_conjunction : conjunction = .none →
    ∀ part, ¬ Leads "and" name part ∧ ¬ Leads "or" name part

theorem unambiguous_iff {conjunction : Conjunction} {entry : Entry} {name : List Char} :
    Unambiguous conjunction entry name ↔
      (∀ other ∈ structuralTable.entries,
        stem? .leading other.keyword.toList name = none) ∧
      (∀ other ∈ comparisonTable.entries, entry.keyword.length < other.keyword.length →
        stem? .trailing other.keyword.toList name = none) ∧
      (conjunction = .none → stem? .leading "and".toList name = none ∧
        stem? .leading "or".toList name = none) := by
  simp only [stem?_leading_eq_none_iff, stem?_trailing_eq_none_iff, ← forall_and]
  exact ⟨fun ⟨hstructural, hlonger, hconjunction⟩ => ⟨hstructural, hlonger, hconjunction⟩,
    fun ⟨hstructural, hlonger, hconjunction⟩ => ⟨hstructural, hlonger, hconjunction⟩⟩

instance (conjunction : Conjunction) (entry : Entry) (name : List Char) :
    Decidable (Unambiguous conjunction entry name) :=
  decidable_of_iff' _ unambiguous_iff

/-! ### Capitals -/

/-- A small letter comes back from its capital. -/
theorem toUpper_of_isLower {c : Char} (h : c.isLower) :
    c.toUpper.isUpper ∧ c.toUpper.toLower = c := by
  have hletters : ∀ n ∈ List.range' 97 26, (Char.ofNat n).toUpper.isUpper ∧
      (Char.ofNat n).toUpper.toLower = Char.ofNat n := by
    decide
  have hrange : (c.val ≥ 97 && c.val ≤ 122) = true := h
  rw [Bool.and_eq_true, decide_eq_true_eq, decide_eq_true_eq] at hrange
  have hcodes : 97 ≤ c.toNat ∧ c.toNat ≤ 122 := hrange
  have hmem : c.toNat ∈ List.range' 97 26 := by
    rw [List.mem_range'_1]
    omega
  simpa using hletters c.toNat hmem

/-- Capitalising a name that begins in lower case gives one that begins with a capital. -/
theorem startsUpper_modifyHead {name : List Char} (h : startsLower name) :
    startsUpper (name.modifyHead Char.toUpper) := by
  cases name with
  | nil => cases h
  | cons c rest => exact (toUpper_of_isLower h).1

/-- Capitalising such a name is undone by taking the capital back. -/
theorem modifyHead_toLower_toUpper {name : List Char} (h : startsLower name) :
    (name.modifyHead Char.toUpper).modifyHead Char.toLower = name := by
  cases name with
  | nil => cases h
  | cons c rest => simp [(toUpper_of_isLower h).2]

/-- The beginning of a name decides this, not what follows it. -/
theorem startsLower_append {name : String} (h : startsLower name.toList) (rest : String) :
    startsLower (name ++ rest).toList := by
  rw [String.toList_append]
  cases hname : name.toList with
  | nil =>
    rw [hname] at h
    cases h
  | cons c tail => rwa [hname] at h

theorem ne_nil_of_startsLower {name : List Char} (h : startsLower name) : name ≠ [] := by
  rintro rfl
  cases h

/-! ### The conjunction of a spelled name -/

variable {conjunction : Conjunction} {name : String}

/-- A conjunction that was put in front comes off again. -/
theorem splits_spell (hlower : startsLower name.toList) (hplain : conjunction = .none →
      ∀ part, ¬ Leads "and" name.toList part ∧ ¬ Leads "or" name.toList part) :
    Splits (conjunction.spell name).toList conjunction name.toList := by
  have hupper := startsUpper_modifyHead hlower
  have hback := modifyHead_toLower_toUpper hlower
  cases conjunction with
  | and =>
    have hleads : Leads "and" (Conjunction.and.spell name).toList
        (name.toList.modifyHead Char.toUpper) :=
      ⟨by simp [Conjunction.spell, capitalized], hupper⟩
    simpa only [hback] using Splits.and hleads
  | or =>
    have hleads : Leads "or" (Conjunction.or.spell name).toList
        (name.toList.modifyHead Char.toUpper) :=
      ⟨by simp [Conjunction.spell, capitalized], hupper⟩
    simpa only [hback] using Splits.or hleads
  | none => exact .none (fun part => (hplain rfl part).1) fun part => (hplain rfl part).2

/-- What was spelled splits into what it was made of. Without a conjunction the name must not look
as if it had one. -/
theorem Splits.of_spell {rest : List Char} (hlower : startsLower name.toList)
    (h : Splits (conjunction.spell name).toList conjunction rest) :
    rest = name.toList ∧ (conjunction = .none →
      ∀ part, ¬ Leads "and" name.toList part ∧ ¬ Leads "or" name.toList part) := by
  cases conjunction with
  | and => exact ⟨(h.unique (splits_spell hlower (by simp))).2, by simp⟩
  | or => exact ⟨(h.unique (splits_spell hlower (by simp))).2, by simp⟩
  | none =>
    cases h with
    | none hand hor => exact ⟨rfl, fun _ part => ⟨hand part, hor part⟩⟩

/-- A word that leads a name leads every part of the name that is longer than the word. -/
theorem Leads.of_append {word : String} {start rest part : List Char}
    (h : Leads word (start ++ rest) part) (hlength : word.length < start.length) :
    ∃ part, Leads word start part := by
  rw [← String.length_toList] at hlength
  rcases List.append_eq_append_iff.1 h.1 with ⟨more, hword, -⟩ | ⟨more, hstart, hpart⟩
  · rw [hword, List.length_append] at hlength
    omega
  · cases more with
    | nil =>
      rw [hstart, List.append_nil] at hlength
      omega
    | cons c more =>
      have hupper := h.2
      rw [hpart] at hupper
      exact ⟨c :: more, hstart, hupper⟩

/-- No conjunction leads a name that a structural keyword begins: `orderByName` has none. -/
theorem structural_not_conjunction {entry : Entry} (hentry : entry ∈ structuralTable.entries)
    (rest part : List Char) : ¬ Leads "and" (entry.keyword.toList ++ rest) part ∧
      ¬ Leads "or" (entry.keyword.toList ++ rest) part := by
  have hkeyword : ∀ word ∈ ["and", "or"], ∀ entry ∈ structuralTable.entries,
      word.length < entry.keyword.toList.length ∧
        stem? .leading word.toList entry.keyword.toList = none := by
    decide
  have hnone : ∀ word ∈ ["and", "or"], ¬ Leads word (entry.keyword.toList ++ rest) part := by
    intro word hword hleads
    obtain ⟨hlength, hstem⟩ := hkeyword word hword entry hentry
    obtain ⟨part', hleads'⟩ := hleads.of_append hlength
    exact stem?_leading_eq_none_iff.1 hstem part' hleads'
  exact ⟨hnone "and" (by simp), hnone "or" (by simp)⟩

theorem startsLower_structural : ∀ entry ∈ structuralTable.entries,
    startsLower entry.keyword.toList := by
  decide

/-! ### Spelled names read back -/

variable {entity : EntityMeta} {field : String} {argCount : Nat}

/-- A decided entry with a spelling of a declared name and an argument makes a call. -/
theorem parse_eq_ok {method : String} {name : List Char} {entry : Entry} {spelling : String}
    (hdeclared : entity.declares field) (hargs : 0 < argCount)
    (hspelling : Text.snakeCase spelling = field)
    (hsplits : Splits method.toList conjunction name)
    (hdecides : Decides name entry spelling.toList) :
    parse entity method argCount = .ok ⟨conjunction, field, entry.operator⟩ := by
  refine (answers_parse entity method argCount).unique (.decided hsplits hdecides ?_)
  subst hspelling
  rw [String.ofList_toList]
  have hfirst : FirstDeclared entity (spellings spelling) (Text.snakeCase spelling) :=
    ⟨[], _, rfl, hdeclared, by simp⟩
  exact .call (fun _ => hargs.ne') hfirst

/-- A structural keyword with a capitalised spelling of a declared name behind it reads back, with
any conjunction, whatever the name is. -/
theorem parse_spell_structural {entry : Entry} {spelling : String}
    (hdeclared : entity.declares field) (hargs : 0 < argCount)
    (hentry : entry ∈ structuralTable.entries) (hupper : startsUpper spelling.toList)
    (hspelling : Text.snakeCase spelling = field) :
    parse entity (conjunction.spell (entry.keyword ++ spelling)) argCount =
      .ok ⟨conjunction, field, entry.operator⟩ := by
  have hstart := startsLower_append (startsLower_structural entry hentry) spelling
  refine parse_eq_ok hdeclared hargs hspelling (splits_spell hstart fun _ part => ?_)
    (.leading hentry ⟨String.toList_append, hupper⟩)
  rw [String.toList_append]
  exact structural_not_conjunction hentry spelling.toList part

/-- Every operator has one keyword in the two tables. -/
theorem operator_injective : ∀ entry ∈ structuralTable.entries ++ comparisonTable.entries,
    ∀ other ∈ structuralTable.entries ++ comparisonTable.entries,
      entry.operator = other.operator → entry = other := by
  decide

theorem structural_disjoint_comparison : ∀ entry ∈ structuralTable.entries,
    entry ∉ comparisonTable.entries := by
  decide

/-- A name that ends in a comparison keyword reads back exactly when it is unambiguous. -/
theorem parse_spell_comparison_iff {entry : Entry} {spelling : String}
    (hdeclared : entity.declares field) (hargs : 0 < argCount)
    (hentry : entry ∈ comparisonTable.entries) (hlower : startsLower spelling.toList)
    (hspelling : Text.snakeCase spelling = field) :
    parse entity (conjunction.spell (spelling ++ entry.keyword)) argCount =
        .ok ⟨conjunction, field, entry.operator⟩ ↔
      Unambiguous conjunction entry (spelling ++ entry.keyword).toList := by
  have htrails : Trails entry.keyword (spelling ++ entry.keyword).toList spelling.toList :=
    ⟨String.toList_append, ne_nil_of_startsLower hlower⟩
  have hstart := startsLower_append hlower entry.keyword
  constructor
  · -- The call that was read is decided by an entry with the same operator, which is this entry.
    intro hparse
    obtain ⟨name, other, part, hsplits, hdecides, hoperator, -, -⟩ := parse_ok hparse
    obtain ⟨rfl, hplain⟩ := hsplits.of_spell hstart
    cases hdecides with
    | leading hother hleads =>
      obtain rfl := operator_injective other (List.mem_append_left _ hother) entry
        (List.mem_append_right _ hentry) hoperator
      exact (structural_disjoint_comparison other hother hentry).elim
    | trailing hother _ hnone hlongest =>
      obtain rfl := operator_injective other (List.mem_append_right _ hother) entry
        (List.mem_append_right _ hentry) hoperator
      exact ⟨hnone, fun longer hlonger hlength part htrails' =>
        (hlongest longer hlonger part htrails').not_gt hlength, hplain⟩
  · intro h
    refine parse_eq_ok hdeclared hargs hspelling (splits_spell hstart h.not_conjunction)
      (.trailing hentry htrails h.not_structural fun other hother part htrails' => ?_)
    by_contra hlonger
    exact h.not_longer other hother (not_le.1 hlonger) part htrails'

/-- Names spelled from a declaration read back to it, behind any conjunction: the structural ones
always, and those that end in a comparison keyword when they are unambiguous. -/
theorem parse_spell_declared (hdeclared : entity.declares field) (hargs : 0 < argCount) :
    (∀ entry ∈ structuralTable.entries, ∀ spelling : String, startsUpper spelling.toList →
      Text.snakeCase spelling = field →
        parse entity (conjunction.spell (entry.keyword ++ spelling)) argCount =
          .ok ⟨conjunction, field, entry.operator⟩) ∧
    ∀ entry ∈ comparisonTable.entries, ∀ spelling : String, startsLower spelling.toList →
      Text.snakeCase spelling = field →
        Unambiguous conjunction entry (spelling ++ entry.keyword).toList →
          parse entity (conjunction.spell (spelling ++ entry.keyword)) argCount =
            .ok ⟨conjunction, field, entry.operator⟩ := by
  constructor
  · intro entry hentry spelling hupper hspelling
    exact parse_spell_structural hdeclared hargs hentry hupper hspelling
  · intro entry hentry spelling hlower hspelling hunambiguous
    exact (parse_spell_comparison_iff hdeclared hargs hentry hlower hspelling).2 hunambiguous

/-- An order, one of whose fields has a name of two words. -/
def sampleOrder : EntityMeta where
  name := "Order"
  table := "orders"
  alias? := some "o"
  fields := [{ name := "id", type := .bigInt, isId := true },
    { name := "created_at", type := .dateTime }]
  associations := [{ name := "customer", targetEntity := "Customer" }]
  name_ne_empty := by decide
  table_isOk := by decide +kernel
  alias_isOk := by decide +kernel
  names_nodup := by decide +kernel

/-- A grouping by an association behind a conjunction, and a comparison of a field of two words. -/
theorem parse_spell_declared_sample :
    sampleOrder.declares "created_at" ∧ sampleOrder.declares "customer" ∧
      Unambiguous .none ⟨"LessThan", .lessThan, true⟩ "createdAtLessThan".toList ∧
      parse sampleOrder "orGroupByCustomer" 1 = .ok ⟨.or, "customer", .groupBy⟩ ∧
      parse sampleOrder "createdAtLessThan" 1 = .ok ⟨.none, "created_at", .lessThan⟩ := by
  have hfield : sampleOrder.declares "created_at" := by decide +kernel
  have hassociation : sampleOrder.declares "customer" := by decide +kernel
  have hunambiguous :
      Unambiguous .none ⟨"LessThan", .lessThan, true⟩ "createdAtLessThan".toList := by
    decide +kernel
  have hgroup : Conjunction.or.spell ("groupBy" ++ "Customer") = "orGroupByCustomer" := by
    decide +kernel
  refine ⟨hfield, hassociation, hunambiguous, ?_, ?_⟩
  · rw [← hgroup]
    exact (parse_spell_declared hassociation Nat.one_pos).1 ⟨"groupBy", .groupBy, false⟩
      (by decide) "Customer" (by decide) (by decide +kernel)
  · exact (parse_spell_declared hfield Nat.one_pos).2 ⟨"LessThan", .lessThan, true⟩
      (by decide) "createdAt" (by decide) (by decide +kernel) hunambiguous

end EntityQuery.Call
