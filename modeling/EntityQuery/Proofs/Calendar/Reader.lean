import EntityQuery.Calendar.Reader

namespace EntityQuery

namespace Calendar

variable {fields : Fields} {item : PatternItem} {reading : Reading}

/-- Nothing but nanoseconds was read. A fixed fraction without digits reads them from nothing. -/
def Fields.OnlyNanos (fields : Fields) : Prop :=
  ∀ f, f ≠ .nano → fields.get? f = none

/-- Setting the nanoseconds sets nothing else. -/
theorem Fields.OnlyNanos.set? {found : Fields} {value : Int} (h : fields.OnlyNanos)
    (hset : fields.set? .nano value = some found) : found.OnlyNanos := by
  rw [Fields.set?] at hset
  split at hset
  · cases hset
  · split at hset
    · cases hset
      intro f hf
      rw [Fields.get?, List.lookup_cons, beq_eq_false_iff_ne.2 hf]
      exact h f hf
    · split at hset
      · cases hset
        exact h
      · cases hset

/-- Digits are read from the empty text only where none are asked for. -/
theorem digitRun?_nil (least most : Nat) :
    digitRun? least most [] = if 0 < least then none else some (0, []) := by
  simp [digitRun?, Text.digitsValue]

/-- No number is read from the empty text, since a number has a digit. -/
theorem number?_nil (width : Nat) (signed : Bool) : number? width signed [] = none := by
  cases signed <;> simp [number?, Text.trimStart, digitRun?_nil]

/-- A fixed fraction that is read from the empty text has no digits, and leaves the text empty. -/
theorem fixedNanos?_nil {digits : Nat} {read : Int × List Char}
    (h : fixedNanos? digits [] = some read) : read.2 = [] := by
  rw [fixedNanos?, digitRun?_nil] at h
  split at h
  · cases h
  · cases h
    rfl

/-- An item that reads the empty text leaves it empty. -/
theorem readItem?_nil (h : fields.OnlyNanos) (hread : readItem? item fields [] = some reading) :
    reading.1.OnlyNanos ∧ reading.2 = [] := by
  cases item with
  | literal text =>
    simp only [readItem?, expectText?] at hread
    obtain ⟨rest, hrest, rfl⟩ := Option.map_eq_some_iff.1 hread
    cases text with
    | nil =>
      cases hrest
      exact ⟨h, rfl⟩
    | cons c text => cases hrest
  | blank =>
    cases hread
    exact ⟨h, rfl⟩
  | fraction digits? =>
    cases hread
    exact ⟨h, rfl⟩
  | zoneName =>
    cases hread
    exact ⟨h, rfl⟩
  | fixedFraction digits =>
    simp only [readItem?, record?] at hread
    obtain ⟨read, hnanos, hread⟩ := Option.bind_eq_some_iff.1 hread
    obtain ⟨found, hset, hread⟩ := Option.bind_eq_some_iff.1 hread
    cases hread
    exact ⟨h.set? hset, fixedNanos?_nil hnanos⟩
  | offset form => cases form <;> cases hread
  | monthName full => cases full <;> cases hread
  | weekdayName full => cases full <;> cases hread
  | number field width signed => simp [readItem?, record?, number?_nil] at hread
  | hour24 => simp [readItem?, number?_nil] at hread
  | hour12 => simp [readItem?, number?_nil] at hread
  | sundayNumber => simp [readItem?, number?_nil] at hread
  | mondayNumber => simp [readItem?, number?_nil] at hread
  | timestamp => cases hread
  | halfDay => cases hread
  | timestampText => cases hread

/-- A row of items leaves the empty text empty, and tells nanoseconds at most. -/
theorem onlyNanos_of_foldlM {items : List PatternItem} (h : fields.OnlyNanos)
    (hread : items.foldlM
      (fun (fields, cs) item =>
        if item = .timestampText then readTimestampText? (fields, cs)
        else readItem? item fields cs) (fields, []) = some reading) :
    reading.1.OnlyNanos := by
  induction items generalizing fields with
  | nil =>
    cases hread
    exact h
  | cons item rest ih =>
    rw [List.foldlM_cons] at hread
    obtain ⟨next, hnext, hrest⟩ := Option.bind_eq_some_iff.1 hread
    simp only at hnext
    split at hnext
    · cases hnext
    · obtain ⟨hnanos, hempty⟩ := readItem?_nil h hnext
      obtain ⟨found, cs⟩ := next
      obtain rfl : cs = [] := hempty
      exact ih hnanos hrest

/-- Only the items that take no characters get past the empty text, and none of them tells a year,
an hour or an instant. -/
theorem readFields?_empty {items : List PatternItem} (h : readFields? items "" = some fields) :
    fields.OnlyNanos := by
  obtain ⟨⟨found, rest⟩, hread, hend⟩ := Option.bind_eq_some_iff.1 h
  have hnanos := onlyNanos_of_foldlM (fun _ _ => rfl) hread
  simp only at hend
  split at hend
  · cases hend
    exact hnanos
  · cases hend

theorem resolveDate_of_onlyNanos (h : fields.OnlyNanos) :
    resolveDate fields = .error .incomplete := by
  have hnone : ∀ f, f ≠ .nano → fields.get? f = none := h
  simp only [resolveDate, resolveYear, ne_eq, reduceCtorEq, not_false_eq_true, hnone,
    Option.map_none]
  rfl

/-- Nanoseconds determine no time, since the hour is missing. -/
theorem resolveTime_of_onlyNanos (h : fields.OnlyNanos) :
    resolveTime fields = .error .incomplete := by
  simp [resolveTime, h .halfDay (by decide)]

/-- Neither the parts nor an instant were read, so there is no date with a time. -/
theorem resolveDateTime?_of_onlyNanos (h : fields.OnlyNanos) : resolveDateTime? fields = none := by
  simp [resolveDateTime?, resolveDate_of_onlyNanos h, resolveTime_of_onlyNanos h,
    h .timestamp (by decide)]

theorem ofInterchange?_empty : ofInterchange? "" = none :=
  rfl

end Calendar

open Calendar

theorem Date.ofText?_empty (pattern : String) : Date.ofText? pattern "" = none := by
  simp only [ofText?, Option.bind_eq_bind, Option.bind_eq_none_iff]
  intro items _ fields hfields
  rw [resolveDate_of_onlyNanos (readFields?_empty hfields)]
  rfl

theorem Time.ofText?_empty (pattern : String) : Time.ofText? pattern "" = none := by
  simp only [ofText?, Option.bind_eq_bind, Option.bind_eq_none_iff]
  intro items _ fields hfields
  rw [resolveTime_of_onlyNanos (readFields?_empty hfields)]
  rfl

/-- The empty text is no date with a time, neither by a pattern nor in the form of interchange. -/
theorem DateTime.ofText?_empty (pattern : String) : DateTime.ofText? pattern "" = none := by
  simp only [ofText?, Option.bind_eq_bind, Option.bind_eq_none_iff]
  intro items _ fields hfields
  exact resolveDateTime?_of_onlyNanos (readFields?_empty hfields)

end EntityQuery
