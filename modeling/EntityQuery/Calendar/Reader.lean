import EntityQuery.Calendar.Pattern
import EntityQuery.Text.Basic

namespace EntityQuery.Calendar

open Text

/-- Reads at least `least` and at most `most` digits. -/
def digitRun? (least most : Nat) (cs : List Char) : Option (Int × List Char) :=
  let run := (cs.takeWhile Char.isDigit).take most
  if run.length < least then none
  else
    let value : Int := digitsValue run
    if value < Nat.pow 2 63 then some (value, cs.drop run.length) else none

/-- Reads a character that has to be there. -/
def expect? (c : Char) : List Char → Option (List Char)
  | [] => none
  | d :: rest => if c = d then some rest else none

def expectText? (text cs : List Char) : Option (List Char) :=
  text.isPrefixOf? cs

/-- Reads the digits behind a decimal point as nanoseconds; those beyond the ninth are dropped. -/
def nanos? (cs : List Char) : Option (Int × List Char) :=
  (digitRun? 1 9 cs).map fun (value, rest) =>
    (value * Nat.pow 10 (9 - (cs.length - rest.length)), rest.dropWhile Char.isDigit)

/-- Reads exactly so many digits of a fraction as nanoseconds. -/
def fixedNanos? (digits : Nat) (cs : List Char) : Option (Int × List Char) :=
  (digitRun? digits digits cs).map fun (value, rest) => (value * Nat.pow 10 (9 - digits), rest)

/-- The names of the months, in lower case. -/
def monthNames : List String :=
  ["january", "february", "march", "april", "may", "june", "july", "august", "september",
    "october", "november", "december"]

/-- The names of the days of the week from Monday on, in lower case. -/
def weekdayNames : List String :=
  ["monday", "tuesday", "wednesday", "thursday", "friday", "saturday", "sunday"]

/-- Reads one of a list of names in any case: its first three letters and, where full names are
read, also the rest of the name if it follows. -/
def name? (names : List String) (full : Bool) (cs : List Char) : Option (Nat × List Char) :=
  let lower := cs.map Char.toLower
  (names.zipIdx.findSome? fun (name, index) =>
    let letters := name.toList
    if (letters.take 3).isPrefixOf lower then
      if full && letters.isPrefixOf lower then some (index, cs.drop letters.length)
      else some (index, cs.drop 3)
    else none)

/-- Reads the offset of a zone in seconds: a sign, two digits of hours, a separator, and two
digits of minutes. -/
def offset? (separator : List Char → Option (List Char)) (zulu optionalMinutes : Bool)
    (cs : List Char) : Option (Int × List Char) :=
  match cs with
  | [] => none
  | c :: rest =>
    if zulu ∧ (c = 'Z' ∨ c = 'z') then some (0, rest)
    else if c = '+' ∨ c = '-' ∨ c = '−' then
      match rest with
      | h1 :: h2 :: rest =>
        if !h1.isDigit ∨ !h2.isDigit then none
        else
          let hours : Int := digitsValue [h1, h2]
          let signed := fun minutes : Int =>
            let seconds := 3600 * hours + 60 * minutes
            if c = '+' then seconds else -seconds
          match separator rest with
          | none => none
          | some (m1 :: m2 :: rest) =>
            if '0' ≤ m1 ∧ m1 ≤ '5' ∧ m2.isDigit then
              some (signed (digitsValue [m1, m2]), rest)
            else none
          | some [] => if optionalMinutes then some (signed 0, []) else none
          | some _ => none
      | _ => none
    else none

def skipColons (cs : List Char) : Option (List Char) :=
  some (cs.dropWhile fun c => c == ':' || isBlank c)

/-- The fields read so far and the text that is left. -/
abbrev Reading := Fields × List Char

/-- Records a field that was read. -/
def record? (fields : Fields) (f : Field) (read : Option (Int × List Char)) : Option Reading := do
  let (value, rest) ← read
  let fields ← fields.set? f value
  return (fields, rest)

/-- Reads a number behind blanks. With a sign it may have any number of digits. -/
def number? (width : Nat) (signed : Bool) (cs : List Char) : Option (Int × List Char) :=
  match signed, trimStart cs with
  | true, '-' :: rest => (digitRun? 1 rest.length rest).map fun (value, rest) => (-value, rest)
  | true, '+' :: rest => digitRun? 1 rest.length rest
  | _, rest => digitRun? 1 width rest

/-- The items of the date in the readable form of a timestamp. -/
def timestampDate : List PatternItem :=
  [.number .year 4 true, .blank, .literal ['-'], plainNumber .month 2, .blank, .literal ['-'],
    plainNumber .day 2]

/-- The items of the time in the readable form of a timestamp. -/
def timestampTime : List PatternItem :=
  [.hour24, .blank, .literal [':'], plainNumber .minute 2, .blank, .literal [':'],
    plainNumber .second 2, .fraction none, .blank]

/-- Reads one item that is made of no others. -/
def readItem? (item : PatternItem) (fields : Fields) (cs : List Char) : Option Reading :=
  match item with
  | .literal text => (expectText? text cs).map fun rest => (fields, rest)
  | .blank => some (fields, trimStart cs)
  | .number field width signed => record? fields field (number? width signed cs)
  | .timestamp =>
    let digits := trimStart cs
    record? fields .timestamp (digitRun? 1 digits.length digits)
  | .hour24 => do
    let (hour, rest) ← number? 2 false cs
    let fields ← fields.setHour? hour
    return (fields, rest)
  | .hour12 => do
    let (hour, rest) ← number? 2 false cs
    if hour < 1 ∨ 12 < hour then none
    else
      let fields ← fields.set? .hourOfHalf (hour % 12)
      return (fields, rest)
  | .sundayNumber => do
    let (day, rest) ← number? 1 false cs
    if 6 < day then none
    else
      let fields ← fields.set? .weekday ((day + 6) % 7)
      return (fields, rest)
  | .mondayNumber => do
    let (day, rest) ← number? 1 false cs
    let fields ← fields.set? .weekday (day - 1)
    return (fields, rest)
  | .monthName full => do
    let (index, rest) ← name? monthNames full cs
    let fields ← fields.set? .month (index + 1 : Nat)
    return (fields, rest)
  | .weekdayName full => do
    let (index, rest) ← name? weekdayNames full cs
    let fields ← fields.set? .weekday index
    return (fields, rest)
  | .halfDay => do
    let (index, rest) ←
      match cs.map Char.toLower with
      | 'a' :: 'm' :: _ => some (0, cs.drop 2)
      | 'p' :: 'm' :: _ => some (1, cs.drop 2)
      | _ => none
    let fields ← fields.set? .halfDay index
    return (fields, rest)
  | .fraction digits? =>
    match cs with
    | '.' :: rest => record? fields .nano ((digits?.map fixedNanos?).getD nanos? rest)
    | _ => some (fields, cs)
  | .fixedFraction digits => record? fields .nano (fixedNanos? digits cs)
  | .zoneName => some (fields, cs.dropWhile fun c => !isBlank c)
  | .offset .strict => record? fields .offset (offset? skipColons false false (trimStart cs))
  | .offset .permissive => record? fields .offset (offset? skipColons true true (trimStart cs))
  | .timestampText => none

/-- Reads a list of items that are made of no others. -/
def readSimple? (items : List PatternItem) (reading : Reading) : Option Reading :=
  items.foldlM (fun (fields, cs) item => readItem? item fields cs) reading

/-- Reads the readable form of a timestamp: a date, `T` or a space, a time, and an offset. -/
def readTimestampText? (reading : Reading) : Option Reading := do
  let (fields, cs) ← readSimple? timestampDate reading
  let cs ←
    match cs with
    | 'T' :: rest | 't' :: rest | ' ' :: rest => some rest
    | _ => none
  let (fields, cs) ← readSimple? timestampTime (fields, cs)
  match (trimStart cs) with
  | u :: t :: c :: rest =>
    if [u, t, c].map Char.toLower = ['u', 't', 'c'] then record? fields .offset (some (0, rest))
    else record? fields .offset (offset? skipColons true false (u :: t :: c :: rest))
  | cs => record? fields .offset (offset? skipColons true false cs)

/-- The fields of a text that a pattern describes in full. -/
def readFields? (items : List PatternItem) (text : String) : Option Fields := do
  let (fields, rest) ←
    items.foldlM
      (fun (fields, cs) item =>
        if item = .timestampText then readTimestampText? (fields, cs)
        else readItem? item fields cs)
      (([] : Fields), text.toList)
  if rest.isEmpty then some fields else none

/-- Reads a text in the form of RFC 3339: a date and a time with all their digits, an optional
fraction, and an offset. The result is the instant in Greenwich. -/
def ofInterchange? (text : String) : Option DateTime := do
  let (year, cs) ← digitRun? 4 4 text.toList
  let (month, cs) ← (expect? '-' cs).bind (digitRun? 2 2)
  let (day, cs) ← (expect? '-' cs).bind (digitRun? 2 2)
  let cs ←
    match cs with
    | 'T' :: rest | 't' :: rest | ' ' :: rest => some rest
    | _ => none
  let (hour, cs) ← digitRun? 2 2 cs
  let (minute, cs) ← (expect? ':' cs).bind (digitRun? 2 2)
  let (second, cs) ← (expect? ':' cs).bind (digitRun? 2 2)
  let (nano, cs) ←
    match cs with
    | '.' :: rest => nanos? rest
    | _ => some (0, cs)
  let (offset, rest) ← offset? (expect? ':') true false cs
  let date ← Date.ofParts? year month.toNat day.toNat
  let time ← Time.ofClock? hour.toNat minute.toNat second.toNat nano.toNat
  if rest.isEmpty ∧ offset.natAbs < secondsPerDay then
    DateTime.ofSeconds? (DateTime.seconds ⟨date, time⟩ - offset) time.nano
  else none

end Calendar

open Calendar

def Date.ofText? (pattern text : String) : Option Date := do
  let items ← itemsOf? pattern
  let fields ← readFields? items text
  (resolveDate fields).toOption

def Time.ofText? (pattern text : String) : Option Time := do
  let items ← itemsOf? pattern
  let fields ← readFields? items text
  (resolveTime fields).toOption

def DateTime.ofText? (pattern text : String) : Option DateTime := do
  let items ← itemsOf? pattern
  let fields ← readFields? items text
  resolveDateTime? fields

end EntityQuery
