import EntityQuery.Calendar.Reader
import EntityQuery.Proofs.Text.Basic

namespace EntityQuery

open Text

variable {width n : Nat} {rest : List Char}

namespace Date

/-- A number is written with as many zeros in front of its digits as the width leaves room for. -/
theorem toList_padded (width n : Nat) :
    (padded width n).toList =
      List.replicate (width - (Nat.toDigits 10 n).length) '0' ++ Nat.toDigits 10 n := by
  rw [padded, String.toList_ofList, Nat.toString_eq_repr, Nat.toList_repr]

theorem isDigits_padded (width n : Nat) : IsDigits (padded width n).toList := by
  rw [toList_padded]
  constructor
  · have hpos : 0 < (Nat.toDigits 10 n).length := Nat.length_toDigits_pos
    exact List.append_ne_nil_of_right_ne_nil _ (List.ne_nil_of_length_pos hpos)
  · intro c hc
    rcases List.mem_append.1 hc with hc | hc
    · rw [List.eq_of_mem_replicate hc]
      rfl
    · exact Nat.isDigit_of_mem_toDigits (by decide) (by decide) hc

end Date

namespace Calendar

open Date

end Calendar

end EntityQuery
