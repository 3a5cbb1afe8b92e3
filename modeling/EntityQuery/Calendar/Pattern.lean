import EntityQuery.Calendar.Fields
import EntityQuery.Text.Basic

namespace EntityQuery.Calendar

/-- How the separator between the hours and the minutes of an offset is read, and whether the
minutes and the letter for Greenwich are optional. -/
inductive OffsetForm
  | strict
  | permissive
deriving DecidableEq, Repr

/-- One item of a pattern, which is plain text in which a percent sign and a letter stand for a
field. A fraction stands behind a point, which may be absent together with it; with a count it has
exactly so many digits, without one any number of them. A fixed fraction has no point. -/
inductive PatternItem
  | literal (text : List Char)
  | blank
  | number (field : Field) (width : Nat) (signed : Bool)
  | timestamp
  | hour24
  | hour12
  | sundayNumber
  | mondayNumber
  | monthName (full : Bool)
  | weekdayName (full : Bool)
  | halfDay
  | fraction (digits? : Option Nat)
  | fixedFraction (digits : Nat)
  | zoneName
  | offset (form : OffsetForm)
  | timestampText
deriving DecidableEq, Repr

open PatternItem

/-- A number that is read without a sign. -/
def plainNumber (field : Field) (width : Nat) : PatternItem :=
  .number field width false

/-- The items of `%m/%d/%y`. -/
def slashDate : List PatternItem :=
  [plainNumber .month 2, literal ['/'], plainNumber .day 2, literal ['/'],
    plainNumber .yearOfCentury 2]

/-- The items of `%H:%M:%S`. -/
def clock : List PatternItem :=
  [hour24, literal [':'], plainNumber .minute 2, literal [':'], plainNumber .second 2]

/-- The items of a letter whose padding can be chosen. -/
def numericSpec? (c : Char) : Option PatternItem :=
  match c with
  | 'C' => some (plainNumber .century 2)
  | 'G' => some (number .weekYear 4 true)
  | 'H' | 'k' => some hour24
  | 'I' | 'l' => some hour12
  | 'M' => some (plainNumber .minute 2)
  | 'S' => some (plainNumber .second 2)
  | 'U' => some (plainNumber .weekFromSunday 2)
  | 'V' => some (plainNumber .isoWeek 2)
  | 'W' => some (plainNumber .weekFromMonday 2)
  | 'Y' => some (number .year 4 true)
  | 'd' | 'e' => some (plainNumber .day 2)
  | 'f' => some (plainNumber .nano 9)
  | 'g' => some (plainNumber .weekYearOfCentury 2)
  | 'j' => some (plainNumber .ordinal 3)
  | 'm' => some (plainNumber .month 2)
  | 'q' => some (plainNumber .quarter 1)
  | 's' => some timestamp
  | 'u' => some mondayNumber
  | 'w' => some sundayNumber
  | 'y' => some (plainNumber .yearOfCentury 2)
  | _ => none

/-- The items of a letter whose padding cannot be chosen. -/
def fixedSpec? (c : Char) : Option (List PatternItem) :=
  match c with
  | 'A' => some [weekdayName true]
  | 'B' => some [monthName true]
  | 'D' | 'x' => some slashDate
  | 'F' =>
    some [number .year 4 true, literal ['-'], plainNumber .month 2, literal ['-'],
      plainNumber .day 2]
  | 'P' | 'p' => some [halfDay]
  | 'R' => some [hour24, literal [':'], plainNumber .minute 2]
  | 'T' | 'X' => some clock
  | 'Z' => some [zoneName]
  | 'a' => some [weekdayName false]
  | 'b' | 'h' => some [monthName false]
  | 'c' =>
    some ([weekdayName false, blank, monthName false, blank, plainNumber .day 2, blank] ++ clock ++
      [blank, number .year 4 true])
  | 'n' | 't' => some [blank]
  | 'r' =>
    some [hour12, literal [':'], plainNumber .minute 2, literal [':'], plainNumber .second 2, blank,
      halfDay]
  | 'v' =>
    some [plainNumber .day 2, literal ['-'], monthName false, literal ['-'], number .year 4 true]
  | 'z' => some [offset .strict]
  | '+' => some [timestampText]
  | '%' => some [literal ['%']]
  | _ => none

/-- Reads what stands behind a percent sign. -/
def spec? (cs : List Char) : Option (List PatternItem × List Char) :=
  match cs with
  | ':' :: ':' :: ':' :: 'z' :: rest | ':' :: ':' :: 'z' :: rest | ':' :: 'z' :: rest =>
    some ([offset .strict], rest)
  | '#' :: 'z' :: rest => some ([offset .permissive], rest)
  | '.' :: '3' :: 'f' :: rest => some ([fraction (some 3)], rest)
  | '.' :: '6' :: 'f' :: rest => some ([fraction (some 6)], rest)
  | '.' :: '9' :: 'f' :: rest => some ([fraction (some 9)], rest)
  | '.' :: 'f' :: rest => some ([fraction none], rest)
  | '3' :: 'f' :: rest => some ([fixedFraction 3], rest)
  | '6' :: 'f' :: rest => some ([fixedFraction 6], rest)
  | '9' :: 'f' :: rest => some ([fixedFraction 9], rest)
  | '-' :: c :: rest | '_' :: c :: rest | '0' :: c :: rest =>
    (numericSpec? c).map fun item => ([item], rest)
  | c :: rest =>
    match numericSpec? c with
    | some item => some ([item], rest)
    | none => (fixedSpec? c).map fun items => (items, rest)
  | [] => none

/-- Reads a pattern. Each step reads at least one character, so its length bounds them. -/
def itemsFrom : Nat → List Char → Option (List PatternItem)
  | 0, cs => if cs.isEmpty then some [] else none
  | fuel + 1, cs =>
    match cs with
    | [] => some []
    | '%' :: rest =>
      match spec? rest with
      | none => none
      | some (items, after) => (itemsFrom fuel after).map (items ++ ·)
    | c :: rest =>
      if Text.isBlank c then (itemsFrom fuel (Text.trimStart rest)).map (blank :: ·)
      else (itemsFrom fuel rest).map (literal [c] :: ·)

/-- The items of a pattern, or nothing when a percent sign is followed by no known letter. -/
def itemsOf? (pattern : String) : Option (List PatternItem) :=
  itemsFrom pattern.toList.length pattern.toList

end EntityQuery.Calendar
