namespace EntityQuery.Calendar

/-- Every fourth year is a leap year, but of the full centuries only every fourth one. -/
def isLeap (year : Int) : Bool :=
  year % 4 == 0 && (year % 100 != 0 || year % 400 == 0)

def monthLengths (leap : Bool) : List Nat :=
  [31, if leap then 29 else 28, 31, 30, 31, 30, 31, 31, 30, 31, 30, 31]

/-- The length of a month, or zero for a number that is no month. -/
def daysInMonth (year : Int) (month : Nat) : Nat :=
  if month = 0 then 0 else (monthLengths (isLeap year)).getD (month - 1) 0

def daysInYear (year : Int) : Nat :=
  if isLeap year then 366 else 365

/-- The years that a date can have. -/
def firstYear : Int := -262143

def lastYear : Int := 262142

/-- Whether three numbers are a date. -/
def isDate (year : Int) (month day : Nat) : Bool :=
  firstYear ≤ year && year ≤ lastYear && 1 ≤ day && day ≤ daysInMonth year month

end Calendar

open Calendar

/-- A date of the Gregorian calendar, which is continued before its introduction and counted with a
year zero. -/
structure Date where
  year : Int
  month : Nat
  day : Nat
  valid : isDate year month day
deriving DecidableEq, Repr

namespace Date

/-- The date of three numbers, if they are one. -/
def ofParts? (year : Int) (month day : Nat) : Option Date :=
  if h : isDate year month day then some ⟨year, month, day, h⟩ else none

/-- The number of days before the first day of a year. -/
def daysBeforeYear (year : Int) : Int :=
  365 * year + (year + 3) / 4 - (year + 99) / 100 + (year + 399) / 400

/-- The number of days before the first day of a month of its year. -/
def daysBeforeMonth (leap : Bool) (month : Nat) : Nat :=
  ((monthLengths leap).take (month - 1)).foldl (· + ·) 0

/-- The number of the day in its year, from one. -/
def ordinal (d : Date) : Nat :=
  daysBeforeMonth (isLeap d.year) d.month + d.day

/-- The number of days since the first day of the year zero. -/
def toDays (d : Date) : Int :=
  daysBeforeYear d.year + (d.ordinal - 1 : Nat)

/-- The year in which a day lies. Year lengths average 146097 days in 400 years, so the guess is
off by one at most. -/
def yearOfDay (n : Int) : Int :=
  let guess := 400 * n / 146097
  if n < daysBeforeYear guess then guess - 1
  else if daysBeforeYear (guess + 1) ≤ n then guess + 1
  else guess

/-- Splits a number of days into whole months, counted from `month`, and the rest. -/
def splitMonths (month : Nat) : List Nat → Nat → Nat × Nat
  | [], days => (month, days)
  | length :: rest, days =>
    if days < length then (month, days) else splitMonths (month + 1) rest (days - length)

/-- The date of the day with a number in its year, from one. -/
def ofOrdinal? (year : Int) (ordinal : Nat) : Option Date :=
  if ordinal = 0 then none
  else
    let (month, day) := splitMonths 1 (monthLengths (isLeap year)) (ordinal - 1)
    ofParts? year month (day + 1)

/-- The date of a number of days since the first day of the year zero. -/
def ofDays? (n : Int) : Option Date :=
  let year := yearOfDay n
  ofOrdinal? year ((n - daysBeforeYear year).toNat + 1)

/-- The day of the week, with Monday as zero. The first day of the year zero is a Saturday. -/
def weekday (d : Date) : Nat :=
  ((d.toDays + 5) % 7).toNat

/-- The number of a date's week when weeks begin on the given day, with Monday as zero, and the
days before the first such day belong to week zero. -/
def weekFrom (d : Date) (start : Nat) : Nat :=
  (d.ordinal + 6 - (d.weekday + 7 - start) % 7) / 7

/-- The number of days before the Monday of the first week of a year, the week of January 4. -/
def daysBeforeFirstWeek (year : Int) : Int :=
  let fourth := daysBeforeYear year + 3
  fourth - (fourth + 5) % 7

/-- The year to which the week of a date belongs. -/
def weekYear (d : Date) : Int :=
  if d.toDays < daysBeforeFirstWeek d.year then d.year - 1
  else if daysBeforeFirstWeek (d.year + 1) ≤ d.toDays then d.year + 1
  else d.year

/-- The number of a date's week in the year to which the week belongs. -/
def weekOfYear (d : Date) : Nat :=
  ((d.toDays - daysBeforeFirstWeek d.weekYear) / 7).toNat + 1

/-- The date of a day in a numbered week. -/
def ofWeek? (year : Int) (week weekday : Nat) : Option Date :=
  let day := daysBeforeFirstWeek year + 7 * ((week : Int) - 1)
  if week = 0 ∨ daysBeforeFirstWeek (year + 1) ≤ day then none else ofDays? (day + weekday)

/-- A number with zeros in front of it up to a width. -/
def padded (width n : Nat) : String :=
  let digits := (toString n).toList
  String.ofList (List.replicate (width - digits.length) '0' ++ digits)

/-- The text of a year: four digits, with a sign outside the years 0 to 9999. -/
def yearText (year : Int) : String :=
  if 0 ≤ year ∧ year ≤ 9999 then padded 4 year.natAbs
  else (if year < 0 then "-" else "+") ++ padded 4 year.natAbs

/-- The text of a date: `2024-03-01`. -/
def toText (d : Date) : String :=
  yearText d.year ++ "-" ++ padded 2 d.month ++ "-" ++ padded 2 d.day

end Date

end EntityQuery
