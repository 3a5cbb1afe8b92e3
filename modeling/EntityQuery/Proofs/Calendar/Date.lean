import EntityQuery.Calendar.Time

namespace EntityQuery

open Calendar

namespace Date

/-! ### Years -/

/-- The days in front of a year are counted up by the length of each year. -/
theorem daysBeforeYear_succ (year : Int) :
    daysBeforeYear (year + 1) = daysBeforeYear year + daysInYear year := by
  simp only [daysBeforeYear, daysInYear, isLeap, Bool.and_eq_true, Bool.or_eq_true, beq_iff_eq,
    bne_iff_ne]
  split <;> omega

theorem daysInYear_le (year : Int) : daysInYear year ≤ 366 := by
  rw [daysInYear]
  split <;> omega

/-- The year of a day is the one that begins on it or before it, and ends behind it. -/
theorem yearOfDay_eq {year n : Int} (hlow : daysBeforeYear year ≤ n)
    (hhigh : n < daysBeforeYear (year + 1)) : yearOfDay n = year := by
  have hguess : 400 * n / 146097 = year - 1 ∨ 400 * n / 146097 = year ∨
      400 * n / 146097 = year + 1 := by
    rw [daysBeforeYear] at hlow hhigh
    omega
  have hbefore := daysBeforeYear_succ (year - 1)
  rw [Int.sub_add_cancel] at hbefore
  rw [yearOfDay]
  rcases hguess with hguess | hguess | hguess
  · have hlate : ¬ n < daysBeforeYear (year - 1) := by omega
    simp only [hguess, Int.sub_add_cancel, if_neg hlate, if_pos hlow]
  · have hlate : ¬ n < daysBeforeYear year := by omega
    have hearly : ¬ daysBeforeYear (year + 1) ≤ n := by omega
    simp only [hguess, if_neg hlate, if_neg hearly]
  · simp only [hguess, if_pos hhigh]
    omega

/-! ### Months -/

theorem foldl_add_cons (length : Nat) (lengths : List Nat) :
    (length :: lengths).foldl (· + ·) 0 = length + lengths.foldl (· + ·) 0 := by
  rw [List.foldl_cons, Nat.add_comm 0, List.foldl_assoc]

/-- Days beyond the first few months are split into these months and the rest. -/
theorem splitMonths_take (lengths : List Nat) (month i rest : Nat)
    (hrest : rest < lengths.getD i 0) :
    splitMonths month lengths ((lengths.take i).foldl (· + ·) 0 + rest) = (month + i, rest) := by
  induction lengths generalizing month i with
  | nil => simp at hrest
  | cons length lengths ih =>
    cases i with
    | zero =>
      have hrest : rest < length := by simpa using hrest
      simp [splitMonths, hrest]
    | succ i =>
      have hrest : rest < lengths.getD i 0 := by simpa using hrest
      have hlate : ¬ length + (lengths.take i).foldl (· + ·) 0 + rest < length := by omega
      have hleft : length + (lengths.take i).foldl (· + ·) 0 + rest - length =
          (lengths.take i).foldl (· + ·) 0 + rest := by omega
      rw [List.take_succ_cons, foldl_add_cons, splitMonths, if_neg hlate, hleft,
        ih (month + 1) i hrest]
      congr 1
      omega

/-- The first lengths and the one behind them are no more than all lengths together. -/
theorem foldl_take_add_getD_le (lengths : List Nat) (i : Nat) :
    (lengths.take i).foldl (· + ·) 0 + lengths.getD i 0 ≤ lengths.foldl (· + ·) 0 := by
  induction lengths generalizing i with
  | nil => simp
  | cons length lengths ih =>
    rw [foldl_add_cons]
    cases i with
    | zero => simp
    | succ i =>
      have hrest := ih i
      rw [List.take_succ_cons, foldl_add_cons, List.getD_cons_succ]
      omega

/-- The months of a year make up the year. -/
theorem foldl_monthLengths (year : Int) :
    (monthLengths (isLeap year)).foldl (· + ·) 0 = daysInYear year := by
  rw [daysInYear]
  cases isLeap year <;> rfl

variable (d : Date)

/-- A date has a year that can be represented, and a day that its month has. -/
theorem isDate_iff {year : Int} {month day : Nat} :
    isDate year month day ↔
      firstYear ≤ year ∧ year ≤ lastYear ∧ 1 ≤ day ∧ day ≤ daysInMonth year month := by
  simp only [isDate, Bool.and_eq_true, decide_eq_true_eq, and_assoc]

theorem month_ne_zero : d.month ≠ 0 := by
  intro hzero
  obtain ⟨-, -, hpos, hle⟩ := isDate_iff.1 d.valid
  rw [hzero, daysInMonth, if_pos rfl] at hle
  omega

/-- No date is behind the last day of its year. -/
theorem ordinal_le : d.ordinal ≤ daysInYear d.year := by
  obtain ⟨-, -, -, hle⟩ := isDate_iff.1 d.valid
  rw [daysInMonth, if_neg d.month_ne_zero] at hle
  have hmonths := foldl_take_add_getD_le (monthLengths (isLeap d.year)) (d.month - 1)
  rw [foldl_monthLengths] at hmonths
  rw [ordinal, daysBeforeMonth]
  omega

theorem ordinal_pos : 0 < d.ordinal := by
  obtain ⟨-, -, hpos, -⟩ := isDate_iff.1 d.valid
  rw [ordinal]
  omega

/-- A date is found by its year and its day in the year. -/
theorem ofOrdinal?_ordinal : ofOrdinal? d.year d.ordinal = some d := by
  obtain ⟨-, -, hpos, hle⟩ := isDate_iff.1 d.valid
  have hrest : d.day - 1 < (monthLengths (isLeap d.year)).getD (d.month - 1) 0 := by
    rw [daysInMonth, if_neg d.month_ne_zero] at hle
    omega
  have hsplit := splitMonths_take _ 1 (d.month - 1) (d.day - 1) hrest
  have hordinal : d.ordinal - 1 = daysBeforeMonth (isLeap d.year) d.month + (d.day - 1) := by
    rw [ordinal]
    omega
  have hmonth : 1 + (d.month - 1) = d.month := by
    have := d.month_ne_zero
    omega
  rw [ofOrdinal?, if_neg (Nat.ne_of_gt d.ordinal_pos), hordinal, daysBeforeMonth, hsplit, hmonth]
  show ofParts? d.year d.month (d.day - 1 + 1) = some d
  rw [Nat.sub_add_cancel hpos]
  exact dif_pos d.valid

/-! ### Days -/

/-- Every date is read back from its number of days. -/
theorem ofDays?_toDays : ofDays? d.toDays = some d := by
  have hpos := d.ordinal_pos
  have hle := d.ordinal_le
  have hyear : yearOfDay d.toDays = d.year := by
    apply yearOfDay_eq
    · rw [toDays]
      omega
    · rw [daysBeforeYear_succ, toDays]
      omega
  have hordinal : (d.toDays - daysBeforeYear d.year).toNat + 1 = d.ordinal := by
    rw [toDays]
    omega
  rw [ofDays?, hyear, hordinal]
  exact d.ofOrdinal?_ordinal

/-- The days of dates are less than a hundred million away from the first day of the year zero. -/
theorem natAbs_toDays_lt : d.toDays.natAbs < 100000000 := by
  obtain ⟨hfirst, hlast, -, -⟩ := isDate_iff.1 d.valid
  have hle := d.ordinal_le
  have hyear := daysInYear_le d.year
  rw [toDays, daysBeforeYear]
  rw [firstYear] at hfirst
  rw [lastYear] at hlast
  omega

end Date

/-- A time has a second of the day and less than one second of nanoseconds, or less than two of them
in the last second of a minute, where a leap second can be. -/
theorem Time.isTime_iff {second nano : Nat} :
    isTime second nano ↔
      second < secondsPerDay ∧
        (nano < nanosPerSecond ∨ nano < 2 * nanosPerSecond ∧ second % 60 = 59) := by
  simp only [isTime, Bool.and_eq_true, Bool.or_eq_true, decide_eq_true_eq, beq_iff_eq]

theorem Time.second_lt (t : Time) : t.second < 86400 :=
  (isTime_iff.1 t.valid).1

theorem Time.ofParts?_eq (t : Time) {second nano : Nat} (hsecond : second = t.second)
    (hnano : nano = t.nano) : ofParts? second nano = some t := by
  subst hsecond hnano
  exact dif_pos t.valid

namespace DateTime

/-- Every instant is read back from its number of seconds and its nanoseconds. -/
theorem ofSeconds?_seconds (dt : DateTime) : ofSeconds? dt.seconds dt.time.nano = some dt := by
  have hsecond := dt.time.second_lt
  have hday : dt.seconds / (secondsPerDay : Nat) = dt.date.toDays := by
    rw [seconds, secondsPerDay]
    omega
  have hrest : (dt.seconds % (secondsPerDay : Nat)).toNat = dt.time.second := by
    rw [seconds, secondsPerDay]
    omega
  rw [ofSeconds?, hday, hrest, dt.date.ofDays?_toDays, dt.time.ofParts?_eq rfl rfl]
  rfl

end DateTime

end EntityQuery
