import EntityQuery.Proofs.Calendar.Date
import EntityQuery.Proofs.Calendar.Items
import EntityQuery.Proofs.Calendar.Numeral

namespace EntityQuery

open Calendar Text

namespace Calendar

end Calendar

namespace Date

variable (d : Date)

theorem toList_toText :
    d.toText.toList =
      (yearText d.year).toList ++
        '-' :: ((padded 2 d.month).toList ++ '-' :: (padded 2 d.day).toList) := by
  have hyphen : "-".toList = ['-'] := rfl
  simp only [toText, String.toList_append, hyphen, List.append_assoc, List.cons_append,
    List.nil_append]

theorem isTrimmed_padded (width n : Nat) : IsTrimmed (padded width n).toList :=
  (isDigits_padded width n).isTrimmed

theorem isTrimmed_yearText (year : Int) : IsTrimmed (yearText year).toList := by
  rw [yearText]
  split
  · exact isTrimmed_padded _ _
  · rw [String.toList_append]
    split
    · exact (isTrimmed_padded 4 year.natAbs).cons (c := '-') rfl
    · exact (isTrimmed_padded 4 year.natAbs).cons (c := '+') rfl

/-- The text of a date has no blanks around it, so trimming it first changes nothing. -/
theorem isTrimmed_toText : IsTrimmed d.toText.toList := by
  rw [toList_toText]
  exact (isTrimmed_yearText _).append '-'
    ((isTrimmed_padded _ _).append '-' (isTrimmed_padded _ _))

/-- The fields that are read from the text of a date. -/
def fields : Fields :=
  [(.day, (d.day : Int)), (.month, (d.month : Int)), (.year, d.year)]

/-- The items of `%Y-%m-%d`. -/
def items : List PatternItem :=
  [.number .year 4 true, .literal ['-'], plainNumber .month 2, .literal ['-'], plainNumber .day 2]

end Date

namespace Time

variable (t : Time)

/-- The second that is shown, which is 60 for a leap second. -/
def shownSecond : Nat :=
  t.second % 60 + t.nano / nanosPerSecond

/-- The nanoseconds behind the full second that is shown. -/
def fraction : Nat :=
  t.nano % nanosPerSecond

theorem toList_toText :
    t.toText.toList =
      (Date.padded 2 (t.second / 3600)).toList ++
        ':' :: ((Date.padded 2 (t.second / 60 % 60)).toList ++
          ':' :: ((Date.padded 2 t.shownSecond).toList ++ (fractionText t.fraction).toList)) := by
  have hcolon : ":".toList = [':'] := rfl
  simp only [toText, shownSecond, fraction, String.toList_append, hcolon, List.append_assoc,
    List.cons_append, List.nil_append]

/-- A fraction stands behind a point. -/
theorem exists_fractionText {nano : Nat} (h : nano ≠ 0) :
    ∃ digits, IsDigits digits ∧ (fractionText nano).toList = '.' :: digits := by
  have hpoint : ".".toList = ['.'] := rfl
  have hpadded : ∀ width n, ∃ digits, IsDigits digits ∧
      ("." ++ Date.padded width n).toList = '.' :: digits := fun width n =>
    ⟨_, Date.isDigits_padded width n, by rw [String.toList_append, hpoint]; rfl⟩
  rw [fractionText, if_neg h]
  split
  · exact hpadded _ _
  · split
    · exact hpadded _ _
    · exact hpadded _ _

/-- The text of a time has no blanks around it. -/
theorem isTrimmed_toText : IsTrimmed t.toText.toList := by
  have hsecond : IsTrimmed ((Date.padded 2 t.shownSecond).toList ++
      (fractionText t.fraction).toList) := by
    by_cases h : t.fraction = 0
    · have hnil : (fractionText 0).toList = [] := rfl
      rw [h, hnil, List.append_nil]
      exact Date.isTrimmed_padded _ _
    · obtain ⟨digits, hdigits, htext⟩ := exists_fractionText h
      rw [htext]
      exact (Date.isTrimmed_padded _ _).append '.' hdigits.isTrimmed
  rw [toList_toText]
  exact (Date.isTrimmed_padded _ _).append ':' ((Date.isTrimmed_padded _ _).append ':' hsecond)

/-- The fields that are read from the text of a time. -/
def fields : Fields :=
  [(.second, (t.shownSecond : Int)), (.minute, ((t.second / 60 % 60 : Nat) : Int)),
    (.hourOfHalf, ((t.second / 3600 : Nat) : Int) % 12),
    (.halfDay, ((t.second / 3600 : Nat) : Int) / 12)]

end Time

/-- A date with a time is the text of the one, a blank and the text of the other. -/
theorem DateTime.toList_toText (dt : DateTime) :
    dt.toText.toList = dt.date.toText.toList ++ ' ' :: dt.time.toText.toList := by
  have hspace : " ".toList = [' '] := rfl
  simp only [toText, String.toList_append, hspace, List.append_assoc, List.singleton_append]

/-- The blank in the middle is no blank at an end. -/
theorem DateTime.isTrimmed_toText (dt : DateTime) : IsTrimmed dt.toText.toList := by
  rw [toList_toText]
  exact dt.date.isTrimmed_toText.append ' ' dt.time.isTrimmed_toText

namespace DateTime

variable (dt : DateTime)

end DateTime

end EntityQuery
