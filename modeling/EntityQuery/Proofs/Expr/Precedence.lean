import EntityQuery.Proofs.Expr.Reading

namespace EntityQuery.Expr

/-- Conditions joined from the left. There is no condition to join in an empty group, whose value
here is never used. -/
def Condition.joined (op : Condition → Condition → Condition) : List Condition → Condition
  | [] => .atom .always
  | first :: rest => rest.foldl op first

mutual

/-- A predicate as a condition, without the parts that contain none. -/
def condition : Expr → Condition
  | .atom a => .atom a
  | .and items => .joined .and (conditions items)
  | .or items => .joined .or (conditions items)
  | .not inner => .not (condition inner)
  | .nested inner => condition inner

/-- The parts of a group that contain a condition. -/
def conditions : List Expr → List Condition
  | [] => []
  | item :: rest => if isEmpty item then conditions rest else condition item :: conditions rest

end

/-- The parts of a group that are written. -/
def present (items : List Expr) : List Expr :=
  items.filter fun item => !item.isEmpty

theorem mem_present_iff {items : List Expr} {item : Expr} :
    item ∈ present items ↔ item ∈ items ∧ item.isEmpty = false := by
  simp [present]

/-- The conditions of a group are those of its parts that contain one. -/
theorem conditions_eq_map (items : List Expr) :
    conditions items = (present items).map condition := by
  induction items with
  | nil => rfl
  | cons item rest ih =>
    rw [conditions, present]
    split
    · rename_i hempty
      rw [ih, List.filter_cons_of_neg (by simp [hempty]), present]
    · rename_i hempty
      rw [ih, List.filter_cons_of_pos (by simpa using hempty), List.map_cons, present]

/-- The first part of a group that contains a condition, and the others. -/
theorem exists_present_cons {items : List Expr} (h : allEmpty items = false) :
    ∃ first rest, present items = first :: rest := by
  obtain ⟨item, hitem, hempty⟩ := exists_not_isEmpty_of_allEmpty h
  exact List.exists_cons_of_ne_nil (List.ne_nil_of_mem (mem_present_iff.2 ⟨hitem, hempty⟩))

/-! ### Rows that are read -/

/-- A row that is read, with more rows behind it that a connective takes as its second operands. -/
theorem reads_joined {level : Level} {sep : Token} {op : Condition → Condition → Condition}
    (hjoin : ∀ {left right : List Token} {c d : Condition}, Reads level left c →
      Reads .negation right d → Reads level (left ++ sep :: right) (op c d))
    {items : List Expr}
    (hitems : ∀ item ∈ items, Reads .negation (partTokens item (tokens item)) (condition item))
    {row : List Token} {c : Condition} (hrow : Reads level row c) :
    Reads level
      ([sep].intercalate (row :: items.map fun item => partTokens item (tokens item)))
      ((items.map condition).foldl op c) := by
  induction items generalizing row c with
  | nil => simpa using hrow
  | cons item rest ih =>
    obtain ⟨hitem, hrest⟩ := List.forall_mem_cons.1 hitems
    rw [List.map_cons, intercalate_append_cons, List.append_assoc]
    exact ih hrest (hjoin hrow hitem)

/-- The tokens of a group are read when those of its parts are. -/
theorem reads_group {level : Level} {sep : Token} {op : Condition → Condition → Condition}
    (hbase : ∀ {row : List Token} {c : Condition}, Reads .negation row c → Reads level row c)
    (hjoin : ∀ {left right : List Token} {c d : Condition}, Reads level left c →
      Reads .negation right d → Reads level (left ++ sep :: right) (op c d))
    {items : List Expr} (hempty : allEmpty items = false)
    (hitems : ∀ item ∈ items, item.isEmpty = false →
      Reads .negation (partTokens item (tokens item)) (condition item)) :
    Reads level ([sep].intercalate (parts items)) (.joined op (conditions items)) := by
  obtain ⟨first, rest, hpresent⟩ := exists_present_cons hempty
  have hparts : ∀ item ∈ first :: rest,
      Reads .negation (partTokens item (tokens item)) (condition item) := by
    intro item hmem
    rw [← hpresent, mem_present_iff] at hmem
    exact hitems item hmem.1 hmem.2
  obtain ⟨hfirst, hrest⟩ := List.forall_mem_cons.1 hparts
  rw [parts_eq_map, conditions_eq_map, ← present, hpresent]
  exact reads_joined hjoin hrest (hbase hfirst)

/-- A group with a single part is written as that part, without parentheses. -/
theorem reads_single {sep : Token} {op : Condition → Condition → Condition} {items : List Expr}
    (hempty : allEmpty items = false) (hsingle : ¬ 1 < (present items).length)
    (hitems : ∀ item ∈ items, item.isEmpty = false →
      Reads .negation (partTokens item (tokens item)) (condition item)) :
    Reads .negation ([sep].intercalate (parts items)) (.joined op (conditions items)) := by
  obtain ⟨first, rest, hpresent⟩ := exists_present_cons hempty
  obtain rfl : rest = [] := by
    rw [hpresent, List.length_cons, Nat.lt_add_left_iff_pos, List.length_pos_iff,
      not_not] at hsingle
    exact hsingle
  have hfirst : first ∈ items ∧ first.isEmpty = false := by
    rw [← mem_present_iff, hpresent]
    exact List.mem_singleton_self first
  rw [parts_eq_map, conditions_eq_map, ← present, hpresent]
  simpa [Condition.joined] using hitems first hfirst.1 hfirst.2

/-- The tokens of a predicate read as its condition, and so they do in a group, where they may have
got parentheses. -/
theorem reads_part {e : Expr} (h : e.isEmpty = false) :
    Reads .disjunction (tokens e) (condition e) ∧
      Reads .negation (partTokens e (tokens e)) (condition e) := by
  have henclosed {e : Expr} (hparens : e.needsParens)
      (h : Reads .disjunction (tokens e) (condition e)) :
      Reads .negation (partTokens e (tokens e)) (condition e) := by
    rw [partTokens, if_pos hparens]
    exact .enclose h
  have hplain {e : Expr} (hparens : e.needsParens = false)
      (h : Reads .negation (tokens e) (condition e)) :
      Reads .disjunction (tokens e) (condition e) ∧
        Reads .negation (partTokens e (tokens e)) (condition e) := by
    rw [partTokens, if_neg (by simp [hparens])]
    exact ⟨.ofConjunction (.ofNegation h), h⟩
  -- As a part of a group, a predicate is read like a negation: with parentheses because they
  -- enclose it, without them because it is one already.
  induction e using Expr.inductionOn with
  | atom a =>
    rw [isEmpty] at h
    have hatom : Reads .negation (tokens (.atom a)) (condition (.atom a)) := by
      rw [tokens, if_neg (by simp [h])]
      exact .atom a
    cases hparens : needsParens (.atom a) with
    | false => exact hplain hparens hatom
    | true =>
      have hread := Reads.ofConjunction (.ofNegation hatom)
      exact ⟨hread, henclosed hparens hread⟩
  | and items ih =>
    rw [isEmpty] at h
    have hitems := fun item hmem hempty => (ih item hmem hempty).2
    cases hparens : needsParens (.and items) with
    | false =>
      apply hplain hparens
      rw [needsParens, decide_eq_false_iff_not] at hparens
      -- At most one of the items is written, so the group is read as that item is.
      exact reads_single h hparens hitems
    | true =>
      have hread : Reads .disjunction (tokens (.and items)) (condition (.and items)) :=
        .ofConjunction (reads_group .ofNegation .and h hitems)
      exact ⟨hread, henclosed hparens hread⟩
  | or items ih =>
    rw [isEmpty] at h
    have hitems := fun item hmem hempty => (ih item hmem hempty).2
    cases hparens : needsParens (.or items) with
    | false =>
      apply hplain hparens
      rw [needsParens, decide_eq_false_iff_not] at hparens
      exact reads_single h hparens hitems
    | true =>
      have hread : Reads .disjunction (tokens (.or items)) (condition (.or items)) :=
        reads_group (fun hrow => .ofConjunction (.ofNegation hrow))
          (fun hleft hright => .or hleft (.ofNegation hright)) h hitems
      exact ⟨hread, henclosed hparens hread⟩
  | not inner ih =>
    rw [isEmpty] at h
    apply hplain rfl
    rw [tokens, if_neg (by simp [h])]
    exact .not (.enclose (ih h).1)
  | nested inner ih =>
    rw [isEmpty] at h
    apply hplain rfl
    rw [tokens, if_neg (by simp [h])]
    exact .enclose (ih h).1

/-! ### Leaves and values -/

/-- Joining conditions from the left keeps their leaves in order. -/
theorem leaves_foldl {op : Condition → Condition → Condition}
    (hleaves : ∀ c d, (op c d).leaves = c.leaves ++ d.leaves) (c : Condition)
    (rest : List Condition) :
    (rest.foldl op c).leaves = c.leaves ++ rest.flatMap Condition.leaves := by
  induction rest generalizing c with
  | nil => simp
  | cons next rest ih => rw [List.foldl_cons, ih, hleaves, List.flatMap_cons, List.append_assoc]

/-- A predicate without a condition has only empty leaves. -/
theorem filter_leaves_of_isEmpty {e : Expr} (h : e.isEmpty) :
    e.leaves.filter (fun a => !a.isEmpty) = [] := by
  rw [isEmpty_iff_leaves] at h
  exact List.filter_eq_nil_iff.2 fun a ha => by simp [h a ha]

/-- A group has the leaves of its parts, without the empty ones. -/
theorem leaves_group {op : Condition → Condition → Condition}
    (hleaves : ∀ c d, (op c d).leaves = c.leaves ++ d.leaves) {items : List Expr}
    (hempty : allEmpty items = false)
    (hitems : ∀ item ∈ items, item.isEmpty = false →
      (condition item).leaves = item.leaves.filter fun a => !a.isEmpty) :
    (Condition.joined op (conditions items)).leaves =
      (allLeaves items).filter fun a => !a.isEmpty := by
  have hpresent : ∀ item ∈ present items,
      (condition item).leaves = item.leaves.filter fun a => !a.isEmpty := by
    intro item hitem
    obtain ⟨hmem, hfull⟩ := mem_present_iff.1 hitem
    exact hitems item hmem hfull
  calc
    (Condition.joined op (conditions items)).leaves
      = (conditions items).flatMap Condition.leaves := by
        obtain ⟨first, rest, heq⟩ := exists_present_cons hempty
        rw [conditions_eq_map, heq, List.map_cons, Condition.joined, leaves_foldl hleaves,
          List.flatMap_cons]
    _ = (present items).flatMap fun item => item.leaves.filter fun a => !a.isEmpty := by
        rw [conditions_eq_map, List.flatMap_map]
        exact List.flatMap_congr hpresent
    _ = (allLeaves items).filter fun a => !a.isEmpty := by
        rw [present, flatMap_filter_of_isEmpty fun item => filter_leaves_of_isEmpty,
          allLeaves_eq_flatMap, List.filter_flatMap]

/-- The condition of a predicate has the leaves that say something, in their order. -/
theorem leaves_condition {e : Expr} (h : e.isEmpty = false) :
    (condition e).leaves = e.leaves.filter fun a => !a.isEmpty := by
  induction e using Expr.inductionOn with
  | atom a =>
    rw [isEmpty] at h
    simp [condition, Condition.leaves, leaves, h]
  | and items ih =>
    rw [isEmpty] at h
    exact leaves_group (fun _ _ => rfl) h ih
  | or items ih =>
    rw [isEmpty] at h
    exact leaves_group (fun _ _ => rfl) h ih
  | not inner ih =>
    rw [isEmpty] at h
    exact ih h
  | nested inner ih =>
    rw [isEmpty] at h
    exact ih h

section Value

variable {T : Type} [Lattice T] (i : Interpretation T)

/-- Parts that contain no condition do not count for the value of a group. -/
theorem groupValue?_present (op : T → T → T) (items : List Expr) :
    groupValue? i op (present items) = groupValue? i op items := by
  induction items with
  | nil => rfl
  | cons item rest ih =>
    rw [present]
    by_cases hempty : item.isEmpty
    · rw [List.filter_cons_of_neg (by simp [hempty]), ← present, ih, groupValue?,
        (value?_eq_none_iff i item).2 hempty, Option.merge_none_left]
    · rw [List.filter_cons_of_pos (by simpa using hempty), ← present, groupValue?, ih, groupValue?]

/-- The value of a group is that of its parts taken from the left, behind any value that stands in
front of it. The recursion over the parts takes them from the right, so associativity is needed. -/
theorem merge_groupValue? {op : T → T → T} [Std.Associative op]
    {join : Condition → Condition → Condition}
    (hvalue : ∀ c d, (join c d).value i = op (c.value i) (d.value i)) {items : List Expr}
    (hitems : ∀ item ∈ items, item.value? i = some ((condition item).value i)) (c : Condition) :
    (some (c.value i)).merge op (groupValue? i op items) =
      some (((items.map condition).foldl join c).value i) := by
  induction items generalizing c with
  | nil => simp [groupValue?]
  | cons item rest ih =>
    obtain ⟨hitem, hrest⟩ := List.forall_mem_cons.1 hitems
    calc
      (some (c.value i)).merge op (groupValue? i op (item :: rest))
        = ((some (c.value i)).merge op (some ((condition item).value i))).merge op
            (groupValue? i op rest) := by
          rw [groupValue?, hitem, merge_assoc]
      _ = (some ((join c (condition item)).value i)).merge op (groupValue? i op rest) := by
          rw [hvalue, Option.merge_some_some]
      _ = some ((((item :: rest).map condition).foldl join c).value i) := ih hrest _

/-- The value of a group is that of the conditions of its parts, joined from the left. -/
theorem groupValue?_conditions {op : T → T → T} [Std.Associative op]
    {join : Condition → Condition → Condition}
    (hvalue : ∀ c d, (join c d).value i = op (c.value i) (d.value i)) {items : List Expr}
    (hempty : allEmpty items = false)
    (hitems : ∀ item ∈ items, item.isEmpty = false →
      item.value? i = some ((condition item).value i)) :
    groupValue? i op items = some ((Condition.joined join (conditions items)).value i) := by
  have hpresent : ∀ item ∈ present items, item.value? i = some ((condition item).value i) := by
    intro item hitem
    obtain ⟨hmem, hfull⟩ := mem_present_iff.1 hitem
    exact hitems item hmem hfull
  obtain ⟨first, rest, heq⟩ := exists_present_cons hempty
  rw [heq] at hpresent
  obtain ⟨hfirst, hrest⟩ := List.forall_mem_cons.1 hpresent
  rw [← groupValue?_present, conditions_eq_map, heq, groupValue?, hfirst]
  exact merge_groupValue? i hvalue hrest (condition first)

/-- A predicate has the value of its condition. -/
theorem value?_eq_condition {e : Expr} (h : e.isEmpty = false) :
    e.value? i = some ((condition e).value i) := by
  induction e using Expr.inductionOn with
  | atom a =>
    rw [isEmpty] at h
    simp [value?, condition, Condition.value, h]
  | and items ih =>
    rw [isEmpty] at h
    exact groupValue?_conditions i (fun _ _ => rfl) h ih
  | or items ih =>
    rw [isEmpty] at h
    exact groupValue?_conditions i (fun _ _ => rfl) h ih
  | not inner ih =>
    rw [isEmpty] at h
    rw [value?, ih h]
    rfl
  | nested inner ih =>
    rw [isEmpty] at h
    exact ih h

end Value

/-! ### Raw texts -/

/-- Every raw text of a row stands in parentheses of its own. -/
def RawsEnclosed (row : List Token) : Prop :=
  ∀ text before after, row = before ++ .atom (.raw text) :: after →
    ∃ left right, before = left ++ [.openParen] ∧ after = .closeParen :: right

theorem rawsEnclosed_of_not_mem {row : List Token} (h : ∀ text, .atom (.raw text) ∉ row) :
    RawsEnclosed row := by
  rintro text before after rfl
  exact absurd (by simp) (h text)

/-- Rows in which raw texts are enclosed stay so one behind the other. -/
theorem RawsEnclosed.append {left right : List Token} (hleft : RawsEnclosed left)
    (hright : RawsEnclosed right) : RawsEnclosed (left ++ right) := by
  intro text before after heq
  rcases List.append_eq_append_iff.1 heq with ⟨more, rfl, hmore⟩ | ⟨more, hmore, hafter⟩
  · obtain ⟨l, r, rfl, rfl⟩ := hright text more after hmore
    exact ⟨left ++ l, r, by rw [List.append_assoc], rfl⟩
  · cases more with
    | nil =>
      -- The raw text would be the first token of the second row.
      obtain ⟨l, r, hl, -⟩ := hright text [] after hafter.symm
      simp at hl
    | cons token more =>
      obtain ⟨rfl, rfl⟩ := List.cons.inj hafter
      obtain ⟨l, r, hl, hr⟩ := hleft text before more hmore
      exact ⟨l, r ++ right, hl, by rw [hr]; rfl⟩

theorem rawsEnclosed_token {token : Token} (h : ∀ text, token ≠ .atom (.raw text)) :
    RawsEnclosed [token] :=
  rawsEnclosed_of_not_mem fun text hmem => h text (List.mem_singleton.1 hmem).symm

theorem RawsEnclosed.enclose {row : List Token} (h : RawsEnclosed row) :
    RawsEnclosed (enclose row) :=
  (rawsEnclosed_token (by simp)).append (h.append (rawsEnclosed_token (by simp)))

/-- A raw text in parentheses is enclosed, of whatever kind it is. -/
theorem rawsEnclosed_enclose_raw (text : String) :
    RawsEnclosed (enclose [.atom (.raw text)]) := by
  intro other before after heq
  cases before with
  | nil => simp [Expr.enclose] at heq
  | cons first before =>
    have hfirst : .openParen = first := (List.cons.inj heq).1
    have hrest : [.atom (.raw text), .closeParen] = before ++ .atom (.raw other) :: after :=
      (List.cons.inj heq).2
    cases before with
    | nil => exact ⟨[], [], by rw [hfirst]; rfl, (List.cons.inj hrest).2.symm⟩
    | cons second before => simp [List.cons_eq_append_iff] at hrest

theorem rawsEnclosed_intercalate {sep : Token} (hsep : ∀ text, sep ≠ .atom (.raw text))
    {rows : List (List Token)} (h : ∀ row ∈ rows, RawsEnclosed row) :
    RawsEnclosed ([sep].intercalate rows) := by
  induction rows with
  | nil => exact rawsEnclosed_of_not_mem (by simp)
  | cons row rest ih =>
    obtain ⟨hrow, hrest⟩ := List.forall_mem_cons.1 h
    cases rest with
    | nil => simpa using hrow
    | cons next rest =>
      rw [List.intercalate_cons_cons]
      exact (hrow.append (rawsEnclosed_token hsep)).append (ih hrest)

/-- A raw text in parentheses has them for its own, and all others have theirs already. -/
theorem rawsEnclosed_enclose {e : Expr}
    (h : (∀ text, e ≠ .atom (.raw text)) → RawsEnclosed (tokens e)) :
    RawsEnclosed (enclose (tokens e)) := by
  by_cases hraw : ∃ text, e = .atom (.raw text)
  · obtain ⟨text, rfl⟩ := hraw
    rw [tokens]
    split
    · exact (rawsEnclosed_of_not_mem (by simp)).enclose
    · exact rawsEnclosed_enclose_raw text
  · exact (h (not_exists.1 hraw)).enclose

/-- Every raw text that is a part of a group gets parentheses. -/
theorem rawsEnclosed_parts {items : List Expr}
    (h : ∀ item ∈ items, (∀ text, item ≠ .atom (.raw text)) → RawsEnclosed (tokens item)) :
    ∀ row ∈ parts items, RawsEnclosed row := by
  intro row hrow
  obtain ⟨item, hitem, -, rfl⟩ := mem_parts_iff.1 hrow
  rw [partTokens]
  split
  · exact rawsEnclosed_enclose (h item hitem)
  · rename_i hparens
    refine h item hitem fun text => ?_
    rintro rfl
    exact hparens rfl

/-- A raw text that is not the whole predicate is written in parentheses of its own. -/
theorem rawsEnclosed_tokens {e : Expr} (h : ∀ text, e ≠ .atom (.raw text)) :
    RawsEnclosed (tokens e) := by
  induction e using Expr.inductionOn with
  | atom a =>
    refine rawsEnclosed_of_not_mem fun text hmem => h text ?_
    rw [tokens] at hmem
    split at hmem
    · cases hmem
    · rw [Token.atom.inj (List.mem_singleton.1 hmem)]
  | and items ih =>
    rw [tokens]
    exact rawsEnclosed_intercalate (by simp) (rawsEnclosed_parts ih)
  | or items ih =>
    rw [tokens]
    exact rawsEnclosed_intercalate (by simp) (rawsEnclosed_parts ih)
  | not inner ih =>
    rw [tokens]
    split
    · exact rawsEnclosed_of_not_mem (by simp)
    · exact (rawsEnclosed_token (by simp)).append (rawsEnclosed_enclose ih)
  | nested inner ih =>
    rw [tokens]
    split
    · exact rawsEnclosed_of_not_mem (by simp)
    · exact rawsEnclosed_enclose ih

/-! ### Meaning -/

/-- A predicate keeps its meaning when it is written. Its text is a row of tokens, which has exactly
one reading by precedence if the predicate contains a condition, and is empty if it contains none.
The reading has the predicate's leaves, without those that say nothing, and its truth value under
every interpretation in every lattice of truth values. A raw text, which may contain connectives of
its own, is the whole row or stands in parentheses of its own. -/
theorem reading_keeps_value (e : Expr) :
    e.toText = String.join (e.tokens.map Token.toText) ∧
      (e.isEmpty → e.tokens = [] ∧
        ∀ (T : Type) [Lattice T] (i : Interpretation T), e.value? i = none) ∧
      (e.isEmpty = false → ∃ c : Condition,
        (∀ d, Reads .disjunction e.tokens d ↔ d = c) ∧
        (c.leaves = e.leaves.filter fun a => !a.isEmpty) ∧
        ∀ (T : Type) [Lattice T] (i : Interpretation T), e.value? i = some (c.value i)) ∧
      ∀ text before after, e.tokens = before ++ .atom (.raw text) :: after →
        before = [] ∧ after = [] ∨
          ∃ left right, before = left ++ [.openParen] ∧ after = .closeParen :: right := by
  refine ⟨toText_eq_join e, fun hempty => ?_, fun hfull => ?_, fun text before after heq => ?_⟩
  · exact ⟨tokens_eq_nil_of_isEmpty hempty, fun T _ i => (value?_eq_none_iff i e).2 hempty⟩
  · have hreads := (reads_part hfull).1
    refine ⟨condition e, fun d => ⟨fun hd => hd.unique hreads, ?_⟩, leaves_condition hfull,
      fun T _ i => value?_eq_condition i hfull⟩
    rintro rfl
    exact hreads
  · by_cases hraw : ∃ other, e = .atom (.raw other)
    · obtain ⟨other, rfl⟩ := hraw
      rw [tokens] at heq
      split at heq
      · simp at heq
      · rcases List.append_eq_singleton_iff.1 heq.symm with ⟨hbefore, hafter⟩ | ⟨-, hnil⟩
        · exact Or.inl ⟨hbefore, (List.cons.inj hafter).2⟩
        · cases hnil
    · exact Or.inr (rawsEnclosed_tokens (not_exists.1 hraw) text before after heq)

/-- A predicate with a raw text that contains a connective and with one that says nothing. -/
def sample : Expr :=
  .and [.or [.raw " u.age > 17 OR u.vip ", .compare "u.team" .eq "p0"],
    .not (.or [.raw " ", .nullCheck "u.id" true])]

/-- A conjunction of a disjunction with a raw text in it, and of a negated group that keeps only one
of its parts. -/
theorem reading_keeps_value_sample :
    sample.isEmpty = false ∧
      sample.toText = "((u.age > 17 OR u.vip) OR u.team = :p0) AND NOT (u.id IS NULL)" ∧
      ∃ c : Condition, (∀ d, Reads .disjunction sample.tokens d ↔ d = c) ∧
        c.leaves = [.raw " u.age > 17 OR u.vip ", .compare "u.team" .eq "p0",
          .nullCheck "u.id" true] ∧
        c.value (.twoValued (· = .compare "u.team" .eq "p0")) = true ∧
        c.value (.twoValued (· = .nullCheck "u.id" true)) = false := by
  have hfull : sample.isEmpty = false := by decide +kernel
  obtain ⟨c, hreads, hleaves, hvalue⟩ := (reading_keeps_value sample).2.2.1 hfull
  refine ⟨hfull, by decide +kernel, c, hreads, hleaves.trans (by decide +kernel), ?_, ?_⟩
  · exact Option.some.inj ((hvalue Bool _).symm.trans (by decide +kernel))
  · exact Option.some.inj ((hvalue Bool _).symm.trans (by decide +kernel))

end EntityQuery.Expr
