import EntityQuery.Calendar.Time

namespace EntityQuery.Calendar

/-- A field of a date or time, as a pattern can read it from a text. -/
inductive Field
  | year
  | century
  | yearOfCentury
  | weekYear
  | weekCentury
  | weekYearOfCentury
  | quarter
  | month
  | weekFromSunday
  | weekFromMonday
  | isoWeek
  | weekday
  | ordinal
  | day
  | halfDay
  | hourOfHalf
  | minute
  | second
  | nano
  | timestamp
  | offset
deriving DecidableEq, Repr

/-- The least and the greatest value of a field. -/
def Field.bounds : Field → Int × Int
  | year | weekYear | offset => (-Nat.pow 2 31, Nat.pow 2 31 - 1)
  | century | weekCentury => (0, Nat.pow 2 31 - 1)
  | yearOfCentury | weekYearOfCentury => (0, 99)
  | quarter => (1, 4)
  | month => (1, 12)
  | weekFromSunday | weekFromMonday => (0, 53)
  | isoWeek => (1, 53)
  | weekday => (0, 6)
  | ordinal => (1, 366)
  | day => (1, 31)
  | halfDay => (0, 1)
  | hourOfHalf => (0, 11)
  | minute => (0, 59)
  | second => (0, 60)
  | nano => (0, 999999999)
  | timestamp => (-Nat.pow 2 63, Nat.pow 2 63 - 1)

/-- The fields read so far. No field stands twice. -/
abbrev Fields := List (Field × Int)

namespace Fields

/-- The value of a field, if it was read. -/
def get? (fields : Fields) (f : Field) : Option Int :=
  fields.lookup f

/-- Records a field. A value out of bounds, or another one than before, is refused. -/
def set? (fields : Fields) (f : Field) (value : Int) : Option Fields :=
  if value < f.bounds.1 ∨ f.bounds.2 < value then none
  else
    match fields.get? f with
    | none => some ((f, value) :: fields)
    | some earlier => if earlier = value then some fields else none

/-- Records an hour of the day as its two halves. -/
def setHour? (fields : Fields) (hour : Int) : Option Fields :=
  if hour < 0 ∨ 23 < hour then none
  else (fields.set? .halfDay (hour / 12)).bind fun fields => fields.set? .hourOfHalf (hour % 12)

/-- Whether a field was not read or has the given value. -/
def agrees (fields : Fields) (f : Field) (value : Int) : Bool :=
  match fields.get? f with
  | none => true
  | some read => read == value

end Fields

/-- Why fields do not determine a date or time. -/
inductive ResolveFault
  | incomplete
  | contradictory
deriving DecidableEq, Repr

open Fields

/-- A year from its fields: the year itself, or the century and the year in it, or the latter
alone, which then lies between 1970 and 2069. -/
def resolveYear (fields : Fields) (whole hundreds rest : Field) :
    Except ResolveFault (Option Int) :=
  match fields.get? whole, fields.get? hundreds, fields.get? rest with
  | some y, none, none => .ok (some y)
  | some y, c, r =>
    if y < 0 then .error .contradictory
    else if c.getD (y / 100) = y / 100 ∧ r.getD (y % 100) = y % 100 then .ok (some y)
    else .error .contradictory
  | none, some c, some r => .ok (some (100 * c + r))
  | none, none, some r => .ok (some (if r < 70 then 2000 + r else 1900 + r))
  | none, some _, none => .error .incomplete
  | none, none, none => .ok none

/-- Whether year fields agree with a year. Centuries are told only from the year zero on. -/
def yearAgrees (fields : Fields) (whole hundreds rest : Field) (year : Int) : Bool :=
  fields.agrees whole year &&
    if 0 ≤ year then fields.agrees hundreds (year / 100) && fields.agrees rest (year % 100)
    else (fields.get? hundreds).isNone && (fields.get? rest).isNone

/-- Whether the fields of year, month and day agree with a date. -/
def monthAgrees (fields : Fields) (d : Date) : Bool :=
  yearAgrees fields .year .century .yearOfCentury d.year &&
    fields.agrees .month d.month && fields.agrees .day d.day

/-- Whether the fields of the week and the weekday agree with a date. -/
def weekAgrees (fields : Fields) (d : Date) : Bool :=
  yearAgrees fields .weekYear .weekCentury .weekYearOfCentury d.weekYear &&
    fields.agrees .isoWeek d.weekOfYear && fields.agrees .weekday d.weekday

/-- Whether the fields that count in the year agree with a date. -/
def ordinalAgrees (fields : Fields) (d : Date) : Bool :=
  fields.agrees .ordinal d.ordinal && fields.agrees .weekFromSunday (d.weekFrom 6) &&
    fields.agrees .weekFromMonday (d.weekFrom 0)

/-- The date of a weekday in a week that is counted from the first given day of the year. -/
def dateOfWeekFrom? (year : Int) (week weekday start : Nat) : Option Date :=
  match Date.ofOrdinal? year 1 with
  | none => none
  | some first =>
    let firstStart : Int := 1 + ((start + 7 - first.weekday) % 7 : Nat)
    let ordinal := firstStart + ((week : Int) - 1) * 7 + ((weekday + 7 - start) % 7 : Nat)
    if ordinal ≤ 0 then none else Date.ofOrdinal? year ordinal.toNat

/-- A date that was found, if it passes its checks: every field that was read and is not needed for
the date has to agree with it. -/
def confirm (fields : Fields) (date : Option Date) (checks : List (Fields → Date → Bool)) :
    Except ResolveFault Date :=
  match date with
  | none => .error .contradictory
  | some d =>
    if checks.all (fun check => check fields d) ∧
        fields.agrees .quarter ((d.month - 1 : Nat) / 3 + 1 : Nat) then .ok d
    else .error .contradictory

def resolveDate (fields : Fields) : Except ResolveFault Date := do
  let year ← resolveYear fields .year .century .yearOfCentury
  let weekYear ← resolveYear fields .weekYear .weekCentury .weekYearOfCentury
  let natural := fun f => (fields.get? f).map Int.toNat
  match year, natural .month, natural .day with
  | some y, some m, some d =>
    confirm fields (Date.ofParts? y m d) [weekAgrees, ordinalAgrees]
  | _, _, _ =>
  match year, natural .ordinal with
  | some y, some n =>
    confirm fields (Date.ofOrdinal? y n) [monthAgrees, weekAgrees, ordinalAgrees]
  | _, _ =>
  match year, natural .weekFromSunday, natural .weekday with
  | some y, some w, some d =>
    confirm fields (dateOfWeekFrom? y w d 6) [monthAgrees, weekAgrees, ordinalAgrees]
  | _, _, _ =>
  match year, natural .weekFromMonday, natural .weekday with
  | some y, some w, some d =>
    confirm fields (dateOfWeekFrom? y w d 0) [monthAgrees, weekAgrees, ordinalAgrees]
  | _, _, _ =>
  match weekYear, natural .isoWeek, natural .weekday with
  | some y, some w, some d => confirm fields (Date.ofWeek? y w d) [monthAgrees, ordinalAgrees]
  | _, _, _ => .error .incomplete

/-- The time that the fields determine. The hour and the minute are needed, and a fraction needs
the second. -/
def resolveTime (fields : Fields) : Except ResolveFault Time :=
  let natural := fun f => (fields.get? f).map Int.toNat
  match natural .halfDay, natural .hourOfHalf, natural .minute with
  | some half, some hour, some minute =>
    if (natural .nano).isSome ∧ (natural .second).isNone then .error .incomplete
    else
      match Time.ofClock? (12 * half + hour) minute ((natural .second).getD 0)
          ((natural .nano).getD 0) with
      | some t => .ok t
      | none => .error .contradictory
  | _, _, _ => .error .incomplete

/-- The seconds of a timestamp are counted from the beginning of the year 1970. -/
def timestampEpoch : Int := 719528 * 86400

/-- The fields completed from a timestamp. A leap second that was read stands for the last second
before the timestamp's minute. -/
def fillFromTimestamp (fields : Fields) (timestamp : Int) : Option Fields := do
  let found ← DateTime.ofSeconds? (timestamp + timestampEpoch) 0
  let leap := fields.get? .second == some 60
  let dt ←
    if leap && found.time.second % 60 == 0 then DateTime.ofSeconds? (found.seconds - 1) 0
    else if leap && found.time.second % 60 != 59 then none
    else some found
  let fields ← if leap then some fields else fields.set? .second (dt.time.second % 60 : Nat)
  let fields ← fields.set? .year dt.date.year
  let fields ← fields.set? .ordinal dt.date.ordinal
  let fields ← fields.setHour? (dt.time.second / 3600 : Nat)
  fields.set? .minute (dt.time.second / 60 % 60 : Nat)

/-- The date and time that the fields determine. A timestamp has to agree with them, or takes the
place of what is missing. -/
def resolveDateTime? (fields : Fields) : Option DateTime :=
  match resolveDate fields, resolveTime fields with
  | .ok date, .ok time =>
    let dt : DateTime := ⟨date, time⟩
    match fields.get? .timestamp with
    | none => some dt
    | some given =>
      let timestamp := dt.seconds - timestampEpoch
      if given = timestamp ∨ (nanosPerSecond ≤ time.nano ∧ given = timestamp + 1) then some dt
      else none
  | .error .contradictory, _ => none
  | _, .error .contradictory => none
  | _, _ => do
    let timestamp ← fields.get? .timestamp
    let filled ← fillFromTimestamp fields timestamp
    let date ← (resolveDate filled).toOption
    let time ← (resolveTime filled).toOption
    return ⟨date, time⟩

end EntityQuery.Calendar
