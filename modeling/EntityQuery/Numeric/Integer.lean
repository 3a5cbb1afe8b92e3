import EntityQuery.Text.Basic

namespace EntityQuery.Numeric

/-- Whether an integer fits a signed word of the given number of bits. -/
def fits (bits : Nat) (n : Int) : Bool :=
  -Nat.pow 2 (bits - 1) ≤ n && n < Nat.pow 2 (bits - 1)

/-- The eight-byte integer of a value that fits. A number that does not fit is refused, never
wrapped. -/
def int64? (n : Int) : Option Int64 :=
  if fits 64 n then some (Int64.ofInt n) else none

/-- What becomes of eight-byte arithmetic whose exact result does not fit: a checked build aborts
the computation, which then has no result at all, and an unchecked one goes on with the result
modulo `2 ^ 64`. -/
inductive Overflow
  | aborts
  | wraps
deriving DecidableEq, Repr

/-- The eight-byte result of an operation with the given exact result, if there is one. -/
def Overflow.result? : Overflow → Int → Option Int64
  | aborts, exact => int64? exact
  | wraps, exact => some (Int64.ofInt exact)

/-- The eight-byte integer nearest to a value. -/
def clampInt64 (n : Int) : Int64 :=
  if n < -Nat.pow 2 63 then Int64.minValue
  else if n < Nat.pow 2 63 then Int64.ofInt n
  else Int64.maxValue

/-- Reads an eight-byte integer: an optional sign and at least one digit. -/
def int64OfText? (s : String) : Option Int64 :=
  (Text.integer? s.toList).bind int64?

/-- An integer that fits keeps its value. -/
theorem toInt_of_int64? {n : Int} {v : Int64} (h : int64? n = some v) : v.toInt = n := by
  rw [int64?] at h
  split at h
  · rename_i hfit
    simp only [fits, Nat.reduceSub, Nat.pow_eq, Nat.reducePow, Bool.and_eq_true,
      decide_eq_true_eq] at hfit
    simp only [Option.some.injEq] at h
    subst h
    exact Int64.toInt_ofInt_of_le (by omega) (by omega)
  · simp at h

/-- Every eight-byte integer fits. -/
theorem int64?_toInt (v : Int64) : int64? v.toInt = some v := by
  have hle := Int64.le_toInt v
  have hlt := Int64.toInt_lt v
  have hfit : fits 64 v.toInt = true := by
    simp only [fits, Nat.reduceSub, Nat.pow_eq, Nat.reducePow, Bool.and_eq_true, decide_eq_true_eq]
    omega
  rw [int64?, if_pos hfit, Int64.ofInt_toInt]

end EntityQuery.Numeric
