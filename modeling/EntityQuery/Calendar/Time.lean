import EntityQuery.Calendar.Date

namespace EntityQuery.Calendar

def nanosPerSecond : Nat := 1000000000

def secondsPerDay : Nat := 86400

/-- Whether a second of the day and nanoseconds are a time. Nanoseconds beyond the full second tell
a leap second, which stands only behind the last second of a minute. -/
def isTime (second nano : Nat) : Bool :=
  second < secondsPerDay &&
    (nano < nanosPerSecond || (nano < 2 * nanosPerSecond && second % 60 == 59))

end Calendar

open Calendar

/-- A time of day. -/
structure Time where
  second : Nat
  nano : Nat
  valid : isTime second nano
deriving DecidableEq, Repr

namespace Time

/-- The time of a second of the day and nanoseconds, if they are one. -/
def ofParts? (second nano : Nat) : Option Time :=
  if h : isTime second nano then some ⟨second, nano, h⟩ else none

/-- The first instant of a day. -/
def midnight : Time := ⟨0, 0, by decide⟩

/-- The time of hours, minutes, seconds and nanoseconds. Second 60 is a leap second. -/
def ofClock? (hour minute second nano : Nat) : Option Time :=
  if hour < 24 ∧ minute < 60 ∧ second ≤ 60 ∧ nano < nanosPerSecond then
    if second = 60 then ofParts? (3600 * hour + 60 * minute + 59) (nano + nanosPerSecond)
    else ofParts? (3600 * hour + 60 * minute + second) nano
  else none

/-- The fraction of a second with the fewest of three, six or nine digits that are exact. -/
def fractionText (nano : Nat) : String :=
  if nano = 0 then ""
  else if nano % 1000000 = 0 then "." ++ Date.padded 3 (nano / 1000000)
  else if nano % 1000 = 0 then "." ++ Date.padded 6 (nano / 1000)
  else "." ++ Date.padded 9 nano

/-- The text of a time: `17:30:00.500`. -/
def toText (t : Time) : String :=
  let second := t.second % 60 + t.nano / nanosPerSecond
  Date.padded 2 (t.second / 3600) ++ ":" ++ Date.padded 2 (t.second / 60 % 60) ++ ":" ++
    Date.padded 2 second ++ fractionText (t.nano % nanosPerSecond)

end Time

/-- A date with a time. -/
structure DateTime where
  date : Date
  time : Time
deriving DecidableEq, Repr

namespace DateTime

/-- The number of seconds since the first instant of the year zero, without the fraction. -/
def seconds (dt : DateTime) : Int :=
  dt.date.toDays * secondsPerDay + dt.time.second

/-- The instant a number of seconds after the first one of the year zero. -/
def ofSeconds? (seconds : Int) (nano : Nat) : Option DateTime := do
  let date ← Date.ofDays? (seconds / secondsPerDay)
  let time ← Time.ofParts? (seconds % secondsPerDay).toNat nano
  return ⟨date, time⟩

/-- The text of a date with a time: `2024-03-01 08:00:00`. -/
def toText (dt : DateTime) : String :=
  dt.date.toText ++ " " ++ dt.time.toText

end DateTime

end EntityQuery
