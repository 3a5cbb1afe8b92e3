import EntityQuery.Calendar.Time
import EntityQuery.Wire.Bytes

namespace EntityQuery.Wire

open Calendar

/-- The first day of the year 2000, as a number of days since the first one of the year zero. -/
def epochDay : Int := 730485

def microsPerDay : Int := 86400000000

def dayNumber (d : Date) : Int :=
  d.toDays - epochDay

def ofDayNumber? (n : Int) : Option Date :=
  Date.ofDays? (n + epochDay)

/-- The microseconds between midnight and a time. -/
def timeMicros (t : Time) : Nat :=
  (t.second * nanosPerSecond + t.nano) / 1000

/-- The time that lies a number of microseconds behind midnight, on whatever day. -/
def ofTimeMicros? (n : Int) : Option Time :=
  let micros := (n % microsPerDay).toNat
  Time.ofParts? (micros / 1000000) (micros % 1000000 * 1000)

/-- The microseconds between the epoch and an instant, cut toward zero. A leap second is the second
behind it. -/
def instantMicros (dt : DateTime) : Int :=
  ((dt.seconds - epochDay * secondsPerDay) * nanosPerSecond + dt.time.nano).tdiv 1000

/-- The instant that lies a number of microseconds behind the epoch. -/
def ofInstantMicros? (n : Int) : Option DateTime :=
  DateTime.ofSeconds? (n / 1000000 + epochDay * secondsPerDay) ((n % 1000000).toNat * 1000)

end EntityQuery.Wire
