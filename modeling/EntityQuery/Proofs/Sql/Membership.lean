import EntityQuery.Proofs.Rows
import EntityQuery.Proofs.Sql.Reference

namespace EntityQuery.Sql

/-! ### Truth values -/

/-- A truth value of the database. -/
inductive Truth
  | no
  | unknown
  | yes
deriving DecidableEq, Repr

namespace Truth

/-- A negation. The negation of what is unknown is unknown. -/
def not : Truth → Truth
  | no => yes
  | unknown => unknown
  | yes => no

/-- A disjunction is true if a side is, and false if both sides are. -/
def or : Truth → Truth → Truth
  | yes, _ => yes
  | _, yes => yes
  | no, no => no
  | _, _ => unknown

variable {first second t : Truth}

theorem or_eq_yes_iff : first.or second = yes ↔ first = yes ∨ second = yes := by
  cases first <;> cases second <;> decide

theorem or_eq_no_iff : first.or second = no ↔ first = no ∧ second = no := by
  cases first <;> cases second <;> decide

theorem not_eq_yes_iff : t.not = yes ↔ t = no := by
  cases t <;> decide

/-- The disjunction of a row of truth values. -/
def any (row : List Truth) : Truth :=
  row.foldr or no

/-- A disjunction is true if one of its members is. -/
theorem any_eq_yes_iff {row : List Truth} : any row = yes ↔ yes ∈ row := by
  induction row with
  | nil => decide
  | cons t rest ih =>
    rw [any, List.foldr_cons, or_eq_yes_iff, List.mem_cons, eq_comm]
    exact or_congr_right ih

/-- It is false only if all of them are, so one unknown member is enough to keep it from that. -/
theorem any_eq_no_iff {row : List Truth} : any row = no ↔ ∀ t ∈ row, t = no := by
  induction row with
  | nil => decide
  | cons t rest ih =>
    rw [any, List.foldr_cons, or_eq_no_iff, List.forall_mem_cons]
    exact and_congr_right fun _ => ih

end Truth

/-! ### Tests -/

/-- An item of a list behind `IN`: the null literal or a value. -/
abbrev Operand :=
  Option Value

/-- A test of a column: one that is decided, or the test whether the column is among operands. -/
inductive RowTest
  | constant (holds : Bool)
  | among (negated : Bool) (operands : List Operand)

/-- The equality of a value and an operand, by an equality `same` of values that are not null. -/
def equals (same : Value → Value → Bool) : Value → Operand → Truth
  | .null, _ => .unknown
  | _, none => .unknown
  | _, some .null => .unknown
  | x, some v => if same x v then .yes else .no

/-- The truth value of a test for a value of the column. -/
def RowTest.truth (same : Value → Value → Bool) (x : Value) : RowTest → Truth
  | constant holds => if holds then .yes else .no
  | among false operands => .any (operands.map (equals same x))
  | among true operands => (Truth.any (operands.map (equals same x))).not

/-- Whether a value is in a list, as the equality sees it. -/
def IsAmong (same : Value → Value → Bool) (x : Value) (members : List Value) : Prop :=
  ∃ v ∈ members, same x v

section

variable {same : Value → Value → Bool} {x v : Value} {members : List Value}

/-- Values that are not null are compared by the equality. -/
theorem equals_of_notNull (hx : x ≠ .null) (hv : v ≠ .null) :
    equals same x (some v) = if same x v then .yes else .no := by
  cases x with
  | null => exact absurd rfl hx
  | _ =>
    cases v with
    | null => exact absurd rfl hv
    | _ => rfl

/-- Nothing is equal to the null literal, and nothing differs from it. -/
theorem equals_none (same : Value → Value → Bool) (x : Value) : equals same x none = .unknown := by
  cases x <;> rfl

/-- Without nulls, the disjunction of the comparisons is true exactly for the members. -/
theorem any_equals_eq_yes_iff (hx : x ≠ .null) (hmembers : ∀ v ∈ members, v ≠ .null) :
    Truth.any ((members.map some).map (equals same x)) = .yes ↔ IsAmong same x members := by
  rw [Truth.any_eq_yes_iff, List.map_map, List.mem_map]
  refine exists_congr fun v => and_congr_right fun hv => ?_
  rw [Function.comp_apply, equals_of_notNull hx (hmembers v hv)]
  cases same x v <;> simp

/-- It is false exactly for the other values, so it is never unknown. -/
theorem any_equals_eq_no_iff (hx : x ≠ .null) (hmembers : ∀ v ∈ members, v ≠ .null) :
    Truth.any ((members.map some).map (equals same x)) = .no ↔ ¬ IsAmong same x members := by
  rw [Truth.any_eq_no_iff, List.map_map, List.forall_mem_map, IsAmong]
  push Not
  refine forall₂_congr fun v hv => ?_
  rw [Function.comp_apply, equals_of_notNull hx (hmembers v hv)]
  cases same x v <;> simp

/-- What the author of a filter wants of a value: that it is among the members, or that it is
not. -/
def IsWanted (same : Value → Value → Bool) (x : Value) (negated : Bool) (members : List Value) :
    Prop :=
  if negated then ¬ IsAmong same x members else IsAmong same x members

/-- Among values that are not null, the test is true exactly for the values that are wanted. -/
theorem truth_among_eq_yes_iff {negated : Bool} (hx : x ≠ .null)
    (hmembers : ∀ v ∈ members, v ≠ .null) :
    (RowTest.among negated (members.map some)).truth same x = .yes ↔
      IsWanted same x negated members := by
  cases negated with
  | false => exact any_equals_eq_yes_iff hx hmembers
  | true => exact Truth.not_eq_yes_iff.trans (any_equals_eq_no_iff hx hmembers)

/-- A decided test without members is true exactly for the values that are wanted. -/
theorem truth_constant_eq_yes_iff (same : Value → Value → Bool) (x : Value) (negated : Bool) :
    (RowTest.constant negated).truth same x = .yes ↔ IsWanted same x negated [] := by
  cases negated <;> simp [RowTest.truth, IsWanted, IsAmong]

/-- The test with the null literal alone is true of no value. -/
theorem truth_among_null (same : Value → Value → Bool) (x : Value) (negated : Bool) :
    (RowTest.among negated [none]).truth same x = .unknown := by
  cases negated <;> simp [RowTest.truth, equals_none, Truth.any, Truth.or, Truth.not]

end

/-! ### The texts of tests -/

/-- The pieces of an operand. -/
def operandPieces : Operand → List Piece
  | none => "NULL".toList.map .char
  | some v => [.value v]

/-- Operands with commas between them. -/
def operandsPieces (operands : List Operand) : List Piece :=
  [.char ',', .char ' '].intercalate (operands.map operandPieces)

/-- The text between the column and the operands. -/
def membershipText (negated : Bool) : String :=
  if negated then " NOT IN (" else " IN ("

/-- The text of a test that is decided. -/
def constantText (holds : Bool) : String :=
  if holds then "1=1" else "1=0"

/-- How a text is read as a test of a column, with the parameters in the places of their
references. -/
inductive IsTest (params : List Value) (column : List Char) : List Char → RowTest → Prop
  | constant (holds : Bool) : IsTest params column (constantText holds).toList (.constant holds)
  | among {text : List Char} {operands : List Operand} (negated : Bool)
      (htext : readBack params text = operandsPieces operands) :
      IsTest params column (column ++ (membershipText negated).toList ++ text ++ [')'])
        (.among negated operands)

/-- An operand ends where its pieces do: a value is one piece, and the null literal is made of
characters. -/
theorem operandPieces_append_injective {a b : Operand} {rest rest' : List Piece}
    (h : operandPieces a ++ rest = operandPieces b ++ rest') : a = b ∧ rest = rest' := by
  cases a with
  | none =>
    cases b with
    | none => exact ⟨rfl, List.append_cancel_left h⟩
    | some v => cases h
  | some v =>
    cases b with
    | none => cases h
    | some w =>
      cases h
      exact ⟨rfl, rfl⟩

theorem operandPieces_ne_nil (a : Operand) : operandPieces a ≠ [] := by
  cases a <;> simp [operandPieces]

/-- A row of operands with a comma in front of each can be told from any other row. -/
theorem flatMap_operandPieces_injective {first second : List Operand}
    (h : first.flatMap (fun a => [.char ',', .char ' '] ++ operandPieces a) =
      second.flatMap (fun a => [.char ',', .char ' '] ++ operandPieces a)) : first = second := by
  induction first generalizing second with
  | nil =>
    cases second with
    | nil => rfl
    | cons b second => cases h
  | cons a first ih =>
    cases second with
    | nil => cases h
    | cons b second =>
      rw [List.flatMap_cons, List.flatMap_cons, List.append_assoc, List.append_assoc] at h
      obtain ⟨rfl, hrest⟩ := operandPieces_append_injective (List.append_cancel_left h)
      rw [ih hrest]

/-- The operands of a list can be read off from its pieces. -/
theorem operandsPieces_injective {first second : List Operand}
    (h : operandsPieces first = operandsPieces second) : first = second := by
  unfold operandsPieces at h
  cases first with
  | nil =>
    cases second with
    | nil => rfl
    | cons b second =>
      rw [List.map_cons, intercalate_cons] at h
      exact absurd h.symm (List.append_ne_nil_of_left_ne_nil (operandPieces_ne_nil b) _)
  | cons a first =>
    cases second with
    | nil =>
      rw [List.map_cons, intercalate_cons] at h
      exact absurd h (List.append_ne_nil_of_left_ne_nil (operandPieces_ne_nil a) _)
    | cons b second =>
      rw [List.map_cons, List.map_cons, intercalate_cons, intercalate_cons, List.flatMap_map,
        List.flatMap_map] at h
      obtain ⟨rfl, hrest⟩ := operandPieces_append_injective h
      rw [flatMap_operandPieces_injective hrest]

section

variable {params : List Value} {column text : List Char} {test other : RowTest}

/-- The negation can be read off from the beginning of a test. -/
theorem membershipText_append_injective {negated negated' : Bool} {rest rest' : List Char}
    (h : (membershipText negated).toList ++ rest = (membershipText negated').toList ++ rest') :
    negated = negated' ∧ rest = rest' := by
  cases negated with
  | false =>
    cases negated' with
    | false => exact ⟨rfl, List.append_cancel_left h⟩
    | true => cases h
  | true =>
    cases negated' with
    | false => cases h
    | true => exact ⟨rfl, List.append_cancel_left h⟩

/-- A decided test does not end with a parenthesis, so it is not read as a membership test. -/
theorem constantText_ne (holds : Bool) (text : List Char) :
    (constantText holds).toList ≠ text ++ [')'] := by
  intro h
  have hlast := congrArg List.getLast? h
  rw [List.getLast?_concat] at hlast
  cases holds <;> cases hlast

/-- A text is read as one test only. -/
theorem IsTest.unique (h : IsTest params column text test) (h' : IsTest params column text other) :
    other = test := by
  generalize htext : text = read at h'
  cases h with
  | constant holds =>
    cases h' with
    | constant holds' => cases holds <;> cases holds' <;> first | rfl | cases htext
    | among negated hoperands => exact absurd htext (constantText_ne holds _)
  | among negated hoperands =>
    cases h' with
    | constant holds => exact absurd htext.symm (constantText_ne holds _)
    | among negated' hoperands' =>
      rw [List.append_cancel_right_eq, List.append_assoc, List.append_assoc] at htext
      obtain ⟨rfl, rfl⟩ := membershipText_append_injective (List.append_cancel_left htext)
      rw [operandsPieces_injective (hoperands.symm.trans hoperands')]

end

/-! ### Written lists -/

/-- The operands that a written list stands for: its values, or the null literal when there are
none. -/
def listOperands (values : List Value) : List Operand :=
  if values.isEmpty then [none] else values.map some

/-- What is written for a list of values stands for its operands. -/
theorem listPieces_eq_operandsPieces (values : List Value) :
    listPieces values = operandsPieces (listOperands values) := by
  rw [listPieces, listOperands]
  split
  · simp [operandsPieces, operandPieces]
  · rw [operandsPieces, List.map_map]
    rfl

/-- A list that is written by its references is read as the test of its operands. -/
theorem isTest_listText {params values : List Value} {first : Nat} (column : List Char)
    (negated : Bool) (h : values <+: params.drop first) :
    IsTest params column
      (column ++ (membershipText negated).toList ++ (listText (first + 1) values).toList ++ [')'])
      (.among negated (listOperands values)) := by
  have hstop : StopsNumber [] := by
    intro c hc
    cases hc
  have hread := readBack_listText h hstop
  rw [List.append_nil, readBack_nil, List.append_nil, listPieces_eq_operandsPieces] at hread
  exact .among negated hread

/-- A written list keeps exactly the values that are wanted, unless it has no members and none is
to be kept out. -/
theorem truth_listOperands_eq_yes_iff {same : Value → Value → Bool} {x : Value}
    {members : List Value} {negated : Bool} (hx : x ≠ .null) (hmembers : ∀ v ∈ members, v ≠ .null) :
    ((RowTest.among negated (listOperands members)).truth same x = .yes ↔
        IsWanted same x negated members) ↔ ¬ (negated ∧ members = []) := by
  cases members with
  | nil =>
    have hunknown : (RowTest.among negated (listOperands [])).truth same x = .unknown :=
      truth_among_null same x negated
    rw [hunknown]
    cases negated <;> simp [IsWanted, IsAmong]
  | cons v rest =>
    have hwanted : (RowTest.among negated (listOperands (v :: rest))).truth same x = .yes ↔
        IsWanted same x negated (v :: rest) :=
      truth_among_eq_yes_iff hx hmembers
    simp [hwanted]

end EntityQuery.Sql
