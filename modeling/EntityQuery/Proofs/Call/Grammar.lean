import EntityQuery.Call.Name
import Mathlib.Data.List.Infix
import Mathlib.Data.Set.Subsingleton

namespace EntityQuery.Call

/-- The first character of a name is an ASCII capital. -/
def startsUpper (name : List Char) : Bool :=
  name.head?.any Char.isUpper

/-- A word stands at the head of a name, and an ASCII capital follows it. -/
def Leads (word : String) (name part : List Char) : Prop :=
  name = word.toList ++ part ∧ startsUpper part

/-- A word stands at the end of a name, and something is in front of it. -/
def Trails (word : String) (name part : List Char) : Prop :=
  name = part ++ word.toList ∧ part ≠ []

/-- How the name of a method divides into a conjunction and the rest. The capital behind the
conjunction becomes a small letter. -/
inductive Splits (method : List Char) : Conjunction → List Char → Prop
  | and {part : List Char} (hand : Leads "and" method part) :
      Splits method .and (part.modifyHead Char.toLower)
  | or {part : List Char} (hor : Leads "or" method part) :
      Splits method .or (part.modifyHead Char.toLower)
  | none (hand : ∀ part, ¬ Leads "and" method part) (hor : ∀ part, ¬ Leads "or" method part) :
      Splits method .none method

/-- The entry that decides a name, with the field part it leaves: a structural keyword that leads,
and the longest comparison keyword that trails where none leads. -/
inductive Decides (name : List Char) : Entry → List Char → Prop
  | leading {entry : Entry} {part : List Char} (hentry : entry ∈ structuralTable.entries)
      (hleads : Leads entry.keyword name part) : Decides name entry part
  | trailing {entry : Entry} {part : List Char} (hentry : entry ∈ comparisonTable.entries)
      (htrails : Trails entry.keyword name part)
      (hnone : ∀ other ∈ structuralTable.entries, ∀ part, ¬ Leads other.keyword name part)
      (hlongest : ∀ other ∈ comparisonTable.entries, ∀ part, Trails other.keyword name part →
        other.keyword.length ≤ entry.keyword.length) : Decides name entry part

/-- The names that a field part can stand for, in the order in which they are tried. -/
def spellings (part : String) : List String :=
  [Text.snakeCase part, Text.lowerCamelCase part, part]

/-- The first of some names that an entity declares. -/
def FirstDeclared (entity : EntityMeta) (names : List String) (name : String) : Prop :=
  ∃ before after, names = before ++ name :: after ∧ entity.declares name ∧
    ∀ other ∈ before, ¬ entity.declares other

/-- What follows once an entry decides: a missing argument comes before an undeclared field. -/
inductive Settles (entity : EntityMeta) (method : String) (argCount : Nat)
    (conjunction : Conjunction) (entry : Entry) (part : String) :
    Except QueryError ParsedCall → Prop
  | missingArgument (hrequires : entry.operator.requiresArgument) (hcount : argCount = 0) :
      Settles entity method argCount conjunction entry part (.error (.missingArgument method))
  | unrecognizedField (hcount : entry.operator.requiresArgument → argCount ≠ 0)
      (hfield : ∀ spelling ∈ spellings part, ¬ entity.declares spelling) :
      Settles entity method argCount conjunction entry part
        (.error (.unrecognizedField entity.shortName (Text.lowerCamelCase part) method))
  | call {field : String} (hcount : entry.operator.requiresArgument → argCount ≠ 0)
      (hfield : FirstDeclared entity (spellings part) field) :
      Settles entity method argCount conjunction entry part
        (.ok ⟨conjunction, field, entry.operator⟩)

/-- What a call by the name of a method is answered with. -/
inductive Answers (entity : EntityMeta) (method : String) (argCount : Nat) :
    Except QueryError ParsedCall → Prop
  | undecided {conjunction : Conjunction} {name : List Char}
      (hsplits : Splits method.toList conjunction name)
      (hnone : ∀ entry part, ¬ Decides name entry part) :
      Answers entity method argCount (.error (.unrecognizedMethod method))
  | decided {conjunction : Conjunction} {name part : List Char} {entry : Entry}
      {result : Except QueryError ParsedCall}
      (hsplits : Splits method.toList conjunction name) (hdecides : Decides name entry part)
      (hsettles : Settles entity method argCount conjunction entry (.ofList part) result) :
      Answers entity method argCount result

/-! ### Words at either end of a name -/

variable {word : String} {method name part : List Char}

theorem Leads.isPrefix (h : Leads word name part) : word.toList <+: name :=
  ⟨part, h.1.symm⟩

theorem Trails.isSuffix (h : Trails word name part) : word.toList <:+ name :=
  ⟨part, h.1.symm⟩

theorem Leads.part_unique {part' : List Char} (h : Leads word name part)
    (h' : Leads word name part') : part = part' :=
  List.append_cancel_left (h.1.symm.trans h'.1)

theorem Trails.part_unique {part' : List Char} (h : Trails word name part)
    (h' : Trails word name part') : part = part' :=
  List.append_cancel_right (h.1.symm.trans h'.1)

/-- The scan at the beginning of a name finds a word exactly if it leads the name. -/
theorem stem?_leading_eq_some_iff :
    stem? .leading word.toList name = some part ↔ Leads word name part := by
  rw [Leads, eq_comm (a := name), ← List.isPrefixOf?_eq_some_iff_append_eq, stem?]
  rcases word.toList.isPrefixOf? name with _ | ⟨_ | ⟨c, rest⟩⟩
  · simp
  · simp only [reduceCtorEq, Option.some.injEq, false_iff, not_and]
    rintro rfl
    simp [startsUpper]
  · simp only [Option.ite_none_right_eq_some, Option.some.injEq]
    constructor
    · rintro ⟨hupper, rfl⟩
      exact ⟨rfl, hupper⟩
    · rintro ⟨rfl, hupper⟩
      exact ⟨hupper, rfl⟩

/-- The scan at the end of a name finds a word exactly if it trails the name. -/
theorem stem?_trailing_eq_some_iff :
    stem? .trailing word.toList name = some part ↔ Trails word name part := by
  rw [Trails, eq_comm (a := name), ← List.isSuffixOf?_eq_some_iff_append_eq, stem?]
  rcases word.toList.isSuffixOf? name with _ | ⟨_ | ⟨c, rest⟩⟩
  · simp
  · simp only [reduceCtorEq, Option.some.injEq, false_iff, not_and]
    rintro rfl
    simp
  · simp only [Option.some.injEq]
    constructor
    · rintro rfl
      exact ⟨rfl, by simp⟩
    · exact And.left

theorem stem?_leading_eq_none_iff :
    stem? .leading word.toList name = none ↔ ∀ part, ¬ Leads word name part := by
  simp [Option.eq_none_iff_forall_ne_some, stem?_leading_eq_some_iff]

theorem stem?_trailing_eq_none_iff :
    stem? .trailing word.toList name = none ↔ ∀ part, ¬ Trails word name part := by
  simp [Option.eq_none_iff_forall_ne_some, stem?_trailing_eq_some_iff]

/-- A conjunction is taken off like a structural keyword, and then the first letter is put in lower
case. -/
theorem stripConjunction?_eq_map (word method : List Char) :
    stripConjunction? word method =
      (stem? .leading word method).map (List.modifyHead Char.toLower) := by
  rw [stripConjunction?, stem?]
  rcases word.isPrefixOf? method with _ | ⟨_ | ⟨c, rest⟩⟩
  · rfl
  · rfl
  · by_cases hupper : c.isUpper <;> simp [hupper]

/-! ### The conjunction -/

/-- The scan for conjunctions splits every name, and tries `and` before `or`. -/
theorem splits_splitConjunction (method : List Char) :
    Splits method (splitConjunction method).1 (splitConjunction method).2 := by
  simp only [splitConjunction, stripConjunction?_eq_map]
  cases hand : stem? .leading "and".toList method with
  | some part => exact .and (stem?_leading_eq_some_iff.1 hand)
  | none =>
    cases hor : stem? .leading "or".toList method with
    | some part => exact .or (stem?_leading_eq_some_iff.1 hor)
    | none => exact .none (stem?_leading_eq_none_iff.1 hand) (stem?_leading_eq_none_iff.1 hor)

/-- No name begins with both conjunctions, so the order in which they are tried does not count. -/
theorem not_leads_and_or {part part' : List Char} (hand : Leads "and" method part)
    (hor : Leads "or" method part') : False := by
  have heq := hand.1.symm.trans hor.1
  simp at heq

/-- A name splits in one way only. -/
theorem Splits.unique {conjunction conjunction' : Conjunction} {name' : List Char}
    (h : Splits method conjunction name) (h' : Splits method conjunction' name') :
    conjunction = conjunction' ∧ name = name' := by
  cases h with
  | and hand =>
    cases h' with
    | and hand' => exact ⟨rfl, by rw [hand.part_unique hand']⟩
    | or hor' => exact (not_leads_and_or hand hor').elim
    | none hnand' _ => exact (hnand' _ hand).elim
  | or hor =>
    cases h' with
    | and hand' => exact (not_leads_and_or hand' hor).elim
    | or hor' => exact ⟨rfl, by rw [hor.part_unique hor']⟩
    | none _ hnor' => exact (hnor' _ hor).elim
  | none hnand hnor =>
    cases h' with
    | and hand' => exact (hnand _ hand').elim
    | or hor' => exact (hnor _ hor').elim
    | none _ _ => exact ⟨rfl, rfl⟩

/-! ### The two tables -/

/-- No structural keyword begins with another one. -/
theorem structuralTable_prefix_free : ∀ entry ∈ structuralTable.entries,
    ∀ other ∈ structuralTable.entries, entry.keyword.toList <+: other.keyword.toList →
      entry = other := by
  decide

/-- A comparison keyword that another one ends with comes after it. -/
theorem comparisonTable_pairwise : comparisonTable.entries.Pairwise fun entry later =>
    ¬ entry.keyword.toList <:+ later.keyword.toList := by
  decide

/-- No keyword stands in the comparison table twice. -/
theorem comparisonTable_keyword_injective : ∀ entry ∈ comparisonTable.entries,
    ∀ other ∈ comparisonTable.entries, entry.keyword.toList = other.keyword.toList →
      entry = other := by
  decide

/-- The tables and the operators agree on which calls need an argument. -/
theorem needsArgument_eq_requiresArgument : ∀ entry ∈
    structuralTable.entries ++ comparisonTable.entries,
      entry.needsArgument = entry.operator.requiresArgument := by
  decide

/-- At most one structural keyword leads a name. -/
theorem leading_entry_unique {entry other : Entry} {part' : List Char}
    (hentry : entry ∈ structuralTable.entries) (hother : other ∈ structuralTable.entries)
    (h : Leads entry.keyword name part) (h' : Leads other.keyword name part') :
    entry = other := by
  rcases le_total entry.keyword.toList.length other.keyword.toList.length with hle | hle
  · exact structuralTable_prefix_free entry hentry other hother
      (List.prefix_of_prefix_length_le h.isPrefix h'.isPrefix hle)
  · exact (structuralTable_prefix_free other hother entry hentry
      (List.prefix_of_prefix_length_le h'.isPrefix h.isPrefix hle)).symm

/-- A table decides nothing exactly if none of its keywords is found. -/
theorem match?_eq_none_iff {table : OperatorTable} :
    table.match? name = none ↔
      ∀ entry ∈ table.entries, stem? table.placement entry.keyword.toList name = none := by
  simp [OperatorTable.match?, List.findSome?_eq_none_iff]

/-- A table decides for the first of its keywords that is found. -/
theorem match?_eq_some_iff {table : OperatorTable} {entry : Entry} :
    table.match? name = some (entry, part) ↔ ∃ before after,
      table.entries = before ++ entry :: after ∧
        stem? table.placement entry.keyword.toList name = some part ∧
          ∀ other ∈ before, stem? table.placement other.keyword.toList name = none := by
  simp only [OperatorTable.match?, List.findSome?_eq_some_iff, Option.map_eq_some_iff,
    Option.map_eq_none_iff, Prod.mk.injEq]
  constructor
  · rintro ⟨before, _, after, htable, ⟨_, hstem, rfl, rfl⟩, hbefore⟩
    exact ⟨before, after, htable, hstem, hbefore⟩
  · rintro ⟨before, after, htable, hstem, hbefore⟩
    exact ⟨before, entry, after, htable, ⟨part, hstem, rfl, rfl⟩, hbefore⟩

/-- The comparison keywords are in such an order that the first one that trails is the longest. -/
theorem longest_of_match? {entry : Entry}
    (h : comparisonTable.match? name = some (entry, part)) :
    entry ∈ comparisonTable.entries ∧ Trails entry.keyword name part ∧
      ∀ other ∈ comparisonTable.entries, ∀ part, Trails other.keyword name part →
        other.keyword.length ≤ entry.keyword.length := by
  obtain ⟨before, after, htable, hstem, hbefore⟩ := match?_eq_some_iff.1 h
  have htrails := stem?_trailing_eq_some_iff.1 hstem
  refine ⟨by simp [htable], htrails, fun other hother part' htrails' => ?_⟩
  rw [htable, List.mem_append, List.mem_cons] at hother
  rcases hother with hother | rfl | hother
  · exact (stem?_trailing_eq_none_iff.1 (hbefore other hother) _ htrails').elim
  · exact le_rfl
  · -- A longer one further on would end with this one.
    by_contra hlonger
    have hpairwise := htable ▸ comparisonTable_pairwise
    rw [List.pairwise_append, List.pairwise_cons] at hpairwise
    refine hpairwise.2.1.1 other hother ?_
    refine List.suffix_of_suffix_length_le htrails.isSuffix htrails'.isSuffix ?_
    rw [String.length_toList, String.length_toList]
    exact (not_le.1 hlonger).le

/-- No two entries decide one name. For the structural table that is because no keyword begins with
another one, and for the comparison table because the longest keyword counts. -/
theorem Decides.unique {entry entry' : Entry} {part' : List Char} (h : Decides name entry part)
    (h' : Decides name entry' part') : entry = entry' ∧ part = part' := by
  cases h with
  | leading hentry hleads =>
    cases h' with
    | leading hentry' hleads' =>
      obtain rfl := leading_entry_unique hentry hentry' hleads hleads'
      exact ⟨rfl, hleads.part_unique hleads'⟩
    | trailing _ _ hnone' _ => exact (hnone' _ hentry _ hleads).elim
  | trailing hentry htrails hnone hlongest =>
    cases h' with
    | leading hentry' hleads' => exact (hnone _ hentry' _ hleads').elim
    | trailing hentry' htrails' _ hlongest' =>
      have hlength : entry.keyword.toList.length = entry'.keyword.toList.length := by
        rw [String.length_toList, String.length_toList]
        exact le_antisymm (hlongest' _ hentry _ htrails) (hlongest _ hentry' _ htrails')
      have hkeyword := (List.suffix_of_suffix_length_le htrails.isSuffix htrails'.isSuffix
        hlength.le).eq_of_length hlength
      obtain rfl := comparisonTable_keyword_injective entry hentry entry' hentry' hkeyword
      exact ⟨rfl, htrails.part_unique htrails'⟩

/-! ### The answer -/

variable {entity : EntityMeta} {method : String} {argCount : Nat}

/-- The first declared name among several is what a search for it finds. -/
theorem firstDeclared_iff {names : List String} {field : String} :
    FirstDeclared entity names field ↔ names.find? entity.declares = some field := by
  simp only [FirstDeclared, List.find?_eq_some_iff_append, Bool.not_eq_true', Bool.not_eq_true]
  constructor
  · rintro ⟨before, after, hnames, hfield, hbefore⟩
    exact ⟨hfield, before, after, hnames, hbefore⟩
  · rintro ⟨hfield, before, after, hnames, hbefore⟩
    exact ⟨before, after, hnames, hfield, hbefore⟩

theorem parseWith_of_match?_eq_none {table : OperatorTable}
    (hmatch : table.match? (splitConjunction method.toList).2 = none) :
    parseWith table entity method argCount = .error (.unrecognizedMethod method) := by
  simp only [parseWith, hmatch]

/-- An entry that decides a name settles the answer: too few arguments and an undeclared field are
refused, and otherwise the entry and the field are the call. -/
theorem settles_parseWith {table : OperatorTable} {entry : Entry}
    (hmatch : table.match? (splitConjunction method.toList).2 = some (entry, part))
    (hneeds : entry.needsArgument = entry.operator.requiresArgument) :
    Settles entity method argCount (splitConjunction method.toList).1 entry (.ofList part)
      (parseWith table entity method argCount) := by
  simp only [parseWith, hmatch, hneeds, Bool.and_eq_true, beq_iff_eq]
  split
  · rename_i hmissing
    exact .missingArgument hmissing.1 hmissing.2
  · rename_i hcount
    rw [not_and] at hcount
    cases hfield : declaredField? entity (.ofList part) with
    | some field => exact .call hcount (firstDeclared_iff.2 hfield)
    | none => exact .unrecognizedField hcount (List.find?_eq_none.1 hfield)

/-- The comparison keywords are tried exactly when no structural one leads. -/
theorem parse_eq_parseWith (entity : EntityMeta) (method : String) (argCount : Nat) :
    parse entity method argCount =
      parseWith (if (structuralTable.match? (splitConjunction method.toList).2).isSome then
        structuralTable else comparisonTable) entity method argCount := by
  cases hmatch : structuralTable.match? (splitConjunction method.toList).2 with
  | none =>
    rw [parse, parseWith_of_match?_eq_none hmatch]
    simp
  | some found =>
    rw [parse, Option.isSome_some, if_pos rfl]
    split
    · -- A table with a match never answers that the method is unknown.
      rename_i hunrecognized
      simp only [parseWith, hmatch] at hunrecognized
      split at hunrecognized
      · cases hunrecognized
      · split at hunrecognized <;> cases hunrecognized
    · rfl

/-- The reader gives an answer of the grammar. -/
theorem answers_parse (entity : EntityMeta) (method : String) (argCount : Nat) :
    Answers entity method argCount (parse entity method argCount) := by
  have hsplits := splits_splitConjunction method.toList
  rw [parse_eq_parseWith]
  cases hstructural : structuralTable.match? (splitConjunction method.toList).2 with
  | some found =>
    obtain ⟨entry, part⟩ := found
    obtain ⟨before, after, htable, hstem, -⟩ := match?_eq_some_iff.1 hstructural
    have hentry : entry ∈ structuralTable.entries := by simp [htable]
    exact .decided hsplits (.leading hentry (stem?_leading_eq_some_iff.1 hstem))
      (settles_parseWith hstructural
        (needsArgument_eq_requiresArgument entry (List.mem_append_left _ hentry)))
  | none =>
    have hnone : ∀ other ∈ structuralTable.entries, ∀ part,
        ¬ Leads other.keyword (splitConjunction method.toList).2 part := fun other hother =>
      stem?_leading_eq_none_iff.1 (match?_eq_none_iff.1 hstructural other hother)
    cases hcomparison : comparisonTable.match? (splitConjunction method.toList).2 with
    | some found =>
      obtain ⟨entry, part⟩ := found
      obtain ⟨hentry, htrails, hlongest⟩ := longest_of_match? hcomparison
      exact .decided hsplits (.trailing hentry htrails hnone hlongest)
        (settles_parseWith hcomparison
          (needsArgument_eq_requiresArgument entry (List.mem_append_right _ hentry)))
    | none =>
      rw [Option.isSome_none, if_neg Bool.false_ne_true, parseWith_of_match?_eq_none hcomparison]
      refine .undecided hsplits fun entry part hdecides => ?_
      cases hdecides with
      | leading hentry hleads => exact hnone entry hentry part hleads
      | trailing hentry htrails _ _ =>
        exact stem?_trailing_eq_none_iff.1 (match?_eq_none_iff.1 hcomparison entry hentry) part
          htrails

theorem FirstDeclared.not_forall {names : List String} {field : String}
    (h : FirstDeclared entity names field) : ¬ ∀ name ∈ names, ¬ entity.declares name := by
  obtain ⟨before, after, rfl, hfield, -⟩ := h
  exact fun hnone => hnone field (by simp) hfield

/-- An entry settles one answer only. -/
theorem Settles.unique {conjunction : Conjunction} {entry : Entry} {part : String}
    {result result' : Except QueryError ParsedCall}
    (h : Settles entity method argCount conjunction entry part result)
    (h' : Settles entity method argCount conjunction entry part result') : result = result' := by
  cases h with
  | missingArgument hrequires hcount =>
    cases h' with
    | missingArgument => rfl
    | unrecognizedField hcount' _ => exact (hcount' hrequires hcount).elim
    | call hcount' _ => exact (hcount' hrequires hcount).elim
  | unrecognizedField hcount hfield =>
    cases h' with
    | missingArgument hrequires' hcount' => exact (hcount hrequires' hcount').elim
    | unrecognizedField => rfl
    | call _ hfield' => exact (hfield'.not_forall hfield).elim
  | call hcount hfield =>
    cases h' with
    | missingArgument hrequires' hcount' => exact (hcount hrequires' hcount').elim
    | unrecognizedField _ hfield' => exact (hfield.not_forall hfield').elim
    | call _ hfield' =>
      rw [firstDeclared_iff] at hfield hfield'
      rw [Option.some.inj (hfield.symm.trans hfield')]

/-- The grammar gives a name one answer only, so that the answer of the reader is the one. -/
theorem Answers.unique {result result' : Except QueryError ParsedCall}
    (h : Answers entity method argCount result) (h' : Answers entity method argCount result') :
    result = result' := by
  cases h with
  | undecided hsplits hnone =>
    cases h' with
    | undecided => rfl
    | decided hsplits' hdecides' _ =>
      obtain ⟨-, rfl⟩ := hsplits.unique hsplits'
      exact (hnone _ _ hdecides').elim
  | decided hsplits hdecides hsettles =>
    cases h' with
    | undecided hsplits' hnone' =>
      obtain ⟨-, rfl⟩ := hsplits.unique hsplits'
      exact (hnone' _ _ hdecides).elim
    | decided hsplits' hdecides' hsettles' =>
      obtain ⟨rfl, rfl⟩ := hsplits.unique hsplits'
      obtain ⟨rfl, rfl⟩ := hdecides.unique hdecides'
      exact hsettles.unique hsettles'

/-- A name that was read has an entry that decides it, the arguments its operator requires, and a
part that spells the field. -/
theorem parse_ok {call : ParsedCall} (h : parse entity method argCount = .ok call) :
    ∃ name entry part, Splits method.toList call.conjunction name ∧ Decides name entry part ∧
      entry.operator = call.operator ∧ (call.operator.requiresArgument → argCount ≠ 0) ∧
        FirstDeclared entity (spellings (.ofList part)) call.field := by
  have hanswers := answers_parse entity method argCount
  rw [h] at hanswers
  cases hanswers with
  | decided hsplits hdecides hsettles =>
    cases hsettles with
    | call hcount hfield => exact ⟨_, _, _, hsplits, hdecides, rfl, hcount, hfield⟩

/-- The reader decides the grammar: its answer is the one the grammar gives, and no second
structural keyword could have led. -/
theorem parse_decides_grammar (entity : EntityMeta) (method : String) (argCount : Nat) :
    (∀ name : List Char,
      {entry ∈ structuralTable.entries | ∃ part, Leads entry.keyword name part}.Subsingleton) ∧
    ∀ result, parse entity method argCount = result ↔ Answers entity method argCount result := by
  refine ⟨?_, fun result => ⟨?_, fun h => ?_⟩⟩
  · rintro name entry ⟨hentry, part, hleads⟩ other ⟨hother, part', hleads'⟩
    exact leading_entry_unique hentry hother hleads hleads'
  · rintro rfl
    exact answers_parse entity method argCount
  · exact (answers_parse entity method argCount).unique h

end EntityQuery.Call
