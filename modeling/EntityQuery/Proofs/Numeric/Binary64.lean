import EntityQuery.Numeric.Binary64.Text
import EntityQuery.Proofs.Text.Basic
import Mathlib.Data.List.TakeWhile
import Mathlib.Tactic.NormNum

namespace EntityQuery

namespace Numeric

variable {n d k m : Nat}

theorem div_le_divNearestEven (n d : Nat) : n / d ≤ divNearestEven n d := by
  simp only [divNearestEven]
  split_ifs <;> omega

theorem divNearestEven_le_div_add_one (n d : Nat) : divNearestEven n d ≤ n / d + 1 := by
  simp only [divNearestEven]
  split_ifs <;> omega

/-- A quotient is rounded up to an even number from half a unit below it. -/
theorem add_one_le_divNearestEven_iff (hd : 0 < d) (hk : k % 2 = 1) :
    k + 1 ≤ divNearestEven n d ↔ 2 * (d * k) + d ≤ 2 * n := by
  have hn : d * (n / d) + n % d = n := Nat.div_add_mod n d
  have hr : n % d < d := Nat.mod_lt n hd
  rcases Nat.lt_trichotomy (n / d) k with hlt | heq | hgt
  · have hle := divNearestEven_le_div_add_one n d
    have hmul : d * (n / d) + d ≤ d * k := Nat.mul_le_mul_left d hlt
    omega
  · simp only [divNearestEven, heq]
    rw [heq] at hn
    split_ifs <;> omega
  · have hle := div_le_divNearestEven n d
    have hmul : d * k + d ≤ d * (n / d) := Nat.mul_le_mul_left d hgt
    omega

/-- A number is at least any power of two up to its logarithm. -/
theorem two_pow_mul_two_pow_le (hm : m ≠ 0) {a b : Nat} (h : a + b ≤ m.log2) :
    2 ^ a * 2 ^ b ≤ m := by
  rw [← Nat.pow_add]
  exact (Nat.le_log2 hm).1 h

theorem lt_two_pow_mul_two_pow (hm : m ≠ 0) {a b : Nat} (h : m.log2 < a + b) :
    m < 2 ^ a * 2 ^ b := by
  rw [← Nat.pow_add]
  exact (Nat.log2_lt hm).1 h

/-! ### Words of whole numbers -/

namespace BinaryFormat

theorem floorLog2_one (hm : m ≠ 0) : floorLog2 m 1 = m.log2 := by
  have hle : 2 ^ m.log2 ≤ m := Nat.log2_self_le hm
  have hone : Nat.log2 1 = 0 := by decide
  simp only [floorLog2, hone]
  rw [if_pos]
  · omega
  · simpa using hle

/-- The leading bits of a whole number, as many as a fraction has and one more. -/
def leadingBits (m : Nat) : Nat :=
  divNearestEven m (2 ^ (m.log2 - 52))

/-- From `2 ^ 52` on a whole number has no places, so its word is made of its logarithm and its
leading bits, or is that of infinity. -/
theorem roundRatio_one (hm : 2 ^ 52 ≤ m) :
    binary64.roundRatio m 1 =
      min ((m.log2 + 1022) * 2 ^ 52 + leadingBits m) binary64.infinityWord := by
  have hne : m ≠ 0 := by omega
  have hlog : 52 ≤ m.log2 := (Nat.le_log2 hne).2 hm
  have hfraction : binary64.fractionBits = 52 := rfl
  have hleast : binary64.minExponent = -1074 := by decide
  have hexponent : max ((m.log2 : Int) - 52) (-1074) = (m.log2 - 52 : Nat) := by omega
  have hfield : (((m.log2 - 52 : Nat) : Int) - -1074).toNat = m.log2 + 1022 := by omega
  have hscale : (-((m.log2 - 52 : Nat) : Int)).toNat = 0 := by omega
  simp only [roundRatio, if_neg hne, floorLog2_one hne, hfraction, hleast, Nat.cast_ofNat,
    hexponent, hfield, hscale, Int.toNat_natCast, Nat.pow_eq, Nat.pow_zero, Nat.mul_one,
    Nat.one_mul, leadingBits]

/-- The leading bits of a whole number are as many as there can be, or it is rounded up to the next
power of two. -/
theorem leadingBits_mem (hm : 2 ^ 52 ≤ m) : 2 ^ 52 ≤ leadingBits m ∧ leadingBits m ≤ 2 ^ 53 := by
  have hne : m ≠ 0 := by omega
  have hlog : 52 ≤ m.log2 := (Nat.le_log2 hne).2 hm
  have hpos : 0 < 2 ^ (m.log2 - 52) := Nat.two_pow_pos _
  have hge : 2 ^ 52 ≤ m / 2 ^ (m.log2 - 52) :=
    (Nat.le_div_iff_mul_le hpos).2 (two_pow_mul_two_pow_le hne (by omega))
  have hlt : m / 2 ^ (m.log2 - 52) < 2 ^ 53 :=
    (Nat.div_lt_iff_lt_mul hpos).2 (lt_two_pow_mul_two_pow hne (by omega))
  have hup := divNearestEven_le_div_add_one m (2 ^ (m.log2 - 52))
  exact ⟨hge.trans (div_le_divNearestEven _ _), hup.trans hlt⟩

/-- The whole numbers from here on round to infinity. The bound lies half a unit of the last place
above the largest number. -/
def infinityBound : Nat :=
  (2 ^ 54 - 1) * 2 ^ 970

theorem infinityWord_binary64 : binary64.infinityWord = 2047 * 2 ^ 52 := by decide

/-- A whole number rounds to infinity exactly from the middle between the largest finite number and
the next power of two on. -/
theorem roundRatio_one_lt_iff (hm : 2 ^ 52 ≤ m) :
    binary64.roundRatio m 1 < binary64.infinityWord ↔ m < infinityBound := by
  have hne : m ≠ 0 := by omega
  obtain ⟨hlow, hhigh⟩ := leadingBits_mem hm
  rw [roundRatio_one hm, infinityWord_binary64, infinityBound]
  rcases Nat.lt_trichotomy m.log2 1023 with hlt | heq | hgt
  · have hpow : m < 2 ^ 53 * 2 ^ 970 := lt_two_pow_mul_two_pow hne hlt
    omega
  · have hunit : 2 ^ (m.log2 - 52) = 2 ^ 970 * 2 := by
      have hexponent : m.log2 - 52 = 970 + 1 := by omega
      exact (congrArg (2 ^ ·) hexponent).trans (pow_succ 2 970)
    have hbits := add_one_le_divNearestEven_iff (n := m) (k := 2 ^ 53 - 1)
      (Nat.two_pow_pos (m.log2 - 52)) (by decide)
    rw [hunit] at hbits
    rw [leadingBits, hunit] at hlow hhigh ⊢
    rw [heq]
    generalize 2 ^ 970 = unit at *
    omega
  · have hpow : 2 ^ 54 * 2 ^ 970 ≤ m := two_pow_mul_two_pow_le hne hgt
    omega

/-- From `2 ^ 63` on the exponent is large enough for the leading bits to be a whole number. -/
theorem le_roundRatio_one (hm : 2 ^ 63 ≤ m) : 1086 * 2 ^ 52 ≤ binary64.roundRatio m 1 := by
  have hlog : 63 ≤ m.log2 := (Nat.le_log2 (by omega)).2 hm
  have hlow := (leadingBits_mem (m := m) (by omega)).1
  rw [roundRatio_one (by omega), infinityWord_binary64]
  omega

/-- A word of a large exponent stands for a whole number. -/
theorem decode_of_le {w : Nat} (hle : 1086 * 2 ^ 52 ≤ w) (hlt : w < binary64.infinityWord) :
    binary64.decode w = .finite (2 ^ 52 + w % 2 ^ 52) (w / 2 ^ 52 - 1075 : Nat) := by
  rw [infinityWord_binary64] at hlt
  have hfraction : binary64.fractionBits = 52 := rfl
  have hexponent : binary64.exponentBits = 11 := rfl
  have hleast : binary64.minExponent = -1074 := by decide
  have htop : binary64.topField = 2047 := by decide
  have hfield : w / 2 ^ 52 % 2 ^ 11 = w / 2 ^ 52 := by omega
  simp only [decode, hfraction, hexponent, hleast, htop, Nat.pow_eq, hfield]
  rw [if_neg (by omega), if_neg (by omega)]
  congr 1
  omega

end BinaryFormat

end Numeric

/-! ### Rounded whole numbers -/

namespace Binary64

open Numeric Numeric.BinaryFormat

variable {negative : Bool} {w m : Nat}

theorem toNat_bits_ofWord (hw : w < 2 ^ 63) :
    (ofWord negative w).bits.toNat = w + if negative then 2 ^ 63 else 0 := by
  have hweight : binary64.signWeight = 2 ^ 63 := rfl
  rw [ofWord, hweight, UInt64.toNat_ofNat']
  apply Nat.mod_eq_of_lt
  split <;> omega

/-- A word and a sign are found again in the number that is made of them. -/
theorem word_ofWord (hw : w < 2 ^ 63) : (ofWord negative w).word = w := by
  have hweight : binary64.signWeight = 2 ^ 63 := rfl
  rw [word, toNat_bits_ofWord hw, hweight]
  split <;> omega

theorem isNegative_ofWord (hw : w < 2 ^ 63) : (ofWord negative w).isNegative = negative := by
  have hweight : binary64.signWeight = 2 ^ 63 := rfl
  rw [isNegative, toNat_bits_ofWord hw, hweight]
  cases negative with
  | false => simpa using hw
  | true => simp

/-- Rounding leaves the place of the sign free. -/
theorem roundRatio_lt (num den : Nat) : binary64.roundRatio num den < 2 ^ 63 := by
  have hle : binary64.roundRatio num den ≤ binary64.infinityWord := by
    rw [roundRatio]
    split
    · omega
    · exact Nat.min_le_right _ _
  rw [infinityWord_binary64] at hle
  omega

theorem isFinite_infinity (negative : Bool) :
    (ofWord negative binary64.infinityWord).isFinite = false := by
  cases negative <;> decide

/-- A large whole number is rounded to a finite number if and only if it is below the bound. -/
theorem isFinite_ofRatio_one_iff (hm : 2 ^ 63 ≤ m) :
    (ofRatio negative m 1).isFinite ↔ m < infinityBound := by
  rw [← roundRatio_one_lt_iff (by omega), ofRatio]
  by_cases hlt : binary64.roundRatio m 1 < binary64.infinityWord
  · rw [isFinite, magnitude, word_ofWord (roundRatio_lt _ _),
      decode_of_le (le_roundRatio_one hm) hlt]
    exact iff_of_true rfl hlt
  · have heq : binary64.roundRatio m 1 = binary64.infinityWord := by
      rw [roundRatio_one (by omega)] at hlt ⊢
      omega
    rw [heq, isFinite_infinity]
    exact iff_of_false Bool.false_ne_true (lt_irrefl _)

/-- Rounding keeps the sign of a large whole number, and that it is large. -/
theorem exists_truncate_ofRatio_one (negative : Bool) (hm : 2 ^ 63 ≤ m)
    (hbound : m < infinityBound) :
    ∃ k : Nat, 2 ^ 63 ≤ k ∧
      (ofRatio negative m 1).truncate = if negative then -(k : Int) else k := by
  have hle := le_roundRatio_one hm
  have hlt := (roundRatio_one_lt_iff (by omega)).2 hbound
  have hw := roundRatio_lt m 1
  rw [ofRatio]
  generalize binary64.roundRatio m 1 = w at hle hlt hw
  refine ⟨(2 ^ 52 + w % 2 ^ 52) * 2 ^ (w / 2 ^ 52 - 1075), ?_, ?_⟩
  · have hexponent : 11 ≤ w / 2 ^ 52 - 1075 := by omega
    calc 2 ^ 63 = 2 ^ 52 * 2 ^ 11 := by norm_num
      _ ≤ (2 ^ 52 + w % 2 ^ 52) * 2 ^ (w / 2 ^ 52 - 1075) :=
        Nat.mul_le_mul (Nat.le_add_right _ _) (Nat.pow_le_pow_right Nat.two_pos hexponent)
  · have hscale : (-((w / 2 ^ 52 - 1075 : Nat) : Int)).toNat = 0 := by omega
    simp only [truncate, ratio, magnitude, word_ofWord hw, isNegative_ofWord hw,
      decode_of_le hle hlt, Int.toNat_natCast, hscale, Nat.pow_eq, Nat.pow_zero, Nat.div_one]

/-! ### Numerals -/

/-- A whole number far beyond the format is not rounded. -/
theorem ofDecimal_zero (hm : m ≠ 0) :
    ofDecimal negative m 0 =
      if 400 < (m.log2 : Int) * 30103 / 100000 then ofWord negative binary64.infinityWord
      else ofRatio negative m 1 := by
  simp only [ofDecimal, if_neg hm, Int.add_zero]
  split
  · rfl
  · rw [if_neg (by omega)]
    simp

theorem infinityBound_le_of_log2 (hlog : 1024 ≤ m.log2) : infinityBound ≤ m := by
  have hne : m ≠ 0 := by
    rintro rfl
    simp at hlog
  have hpow : 2 ^ 54 * 2 ^ 970 ≤ m := two_pow_mul_two_pow_le hne hlog
  rw [infinityBound]
  omega

/-- A numeral of whole numbers is finite exactly below that bound, whichever sign it has. -/
theorem isFinite_ofDecimal_iff (hm : 2 ^ 63 ≤ m) :
    (ofDecimal negative m 0).isFinite ↔ m < infinityBound := by
  rw [ofDecimal_zero (by omega)]
  split
  · rename_i htop
    rw [isFinite_infinity]
    exact iff_of_false Bool.false_ne_true (infinityBound_le_of_log2 (by omega)).not_gt
  · exact isFinite_ofRatio_one_iff hm

/-- Rounding does not lead a whole number below `2 ^ 63`, since that is a number of the format
itself. -/
theorem exists_truncate_ofDecimal (negative : Bool) (hm : 2 ^ 63 ≤ m) (hbound : m < infinityBound) :
    ∃ k : Nat, 2 ^ 63 ≤ k ∧
      (ofDecimal negative m 0).truncate = if negative then -(k : Int) else k := by
  have hlog : m.log2 < 1024 := by
    by_contra hlog
    exact (infinityBound_le_of_log2 (Nat.le_of_not_lt hlog)).not_gt hbound
  rw [ofDecimal_zero (by omega), if_neg (by omega)]
  exact exists_truncate_ofRatio_one negative hm hbound

/-- Digits are read as the number nearest to the one that they denote. -/
theorem unsigned?_of_isDigits {cs : List Char} (h : Text.IsDigits cs) :
    unsigned? negative cs = some (ofDecimal negative (Nat.ofDigitChars 10 cs 0) 0) := by
  have htake : cs.takeWhile Char.isDigit = cs := List.takeWhile_eq_self_iff.2 h.2
  have hdrop : cs.dropWhile Char.isDigit = [] := List.dropWhile_eq_nil_iff.2 h.2
  have hempty : cs.isEmpty = false := List.isEmpty_eq_false_iff.2 h.1
  simp only [unsigned?, htake, hdrop, hempty, List.append_nil, Text.digitsValue_eq_ofDigitChars]
  rfl

theorem toLower_of_isDigit {c : Char} (h : c.isDigit) : c.toLower = c := by
  have hascii : c.toNat < 128 := Text.toNat_lt_of_isAlphanum (by simp [Char.isAlphanum, h])
  exact Text.forall_ascii (p := fun c => c.isDigit → c.toLower = c) (by decide) hascii h

/-- Digits are none of the words that a number can be written as. -/
theorem beq_word_of_isDigits {cs : List Char} (h : Text.IsDigits cs) (first : Char)
    (rest : List Char) (hfirst : first.isDigit = false) :
    (String.ofList (cs.map Char.toLower) == String.ofList (first :: rest)) = false := by
  rw [beq_eq_false_iff_ne, ne_eq, String.ofList_inj, List.map_congr_left fun c hc =>
    toLower_of_isDigit (h.2 c hc), List.map_id']
  exact h.ne_sign_cons hfirst rest

/-- What stands behind the sign of a number. -/
def behindSign? (negative : Bool) (cs : List Char) : Option Binary64 :=
  let word := String.ofList (cs.map Char.toLower)
  if word == "inf" || word == "infinity" then some (ofWord negative binary64.infinityWord)
  else if word == "nan" then some (ofWord negative nan.word)
  else unsigned? negative cs

/-- Behind a sign too, since digits are none of the words for what is no number. -/
theorem behindSign?_of_isDigits {cs : List Char} (h : Text.IsDigits cs) :
    behindSign? negative cs = some (ofDecimal negative (Nat.ofDigitChars 10 cs 0) 0) := by
  have hinf : (String.ofList (cs.map Char.toLower) == "inf") = false :=
    beq_word_of_isDigits h 'i' ['n', 'f'] rfl
  have hinfinity : (String.ofList (cs.map Char.toLower) == "infinity") = false :=
    beq_word_of_isDigits h 'i' ['n', 'f', 'i', 'n', 'i', 't', 'y'] rfl
  have hnan : (String.ofList (cs.map Char.toLower) == "nan") = false :=
    beq_word_of_isDigits h 'n' ['a', 'n'] rfl
  rw [behindSign?, hinf, hinfinity, hnan, unsigned?_of_isDigits h]
  rfl

/-- A numeral is read as the number nearest to the integer that it denotes. Zero has two signs. -/
theorem ofText?_of_isNumeral {s : String} {n : Int} (h : Text.IsNumeral s.toList n) (hn : n ≠ 0) :
    ofText? s = some (ofDecimal (n < 0) n.natAbs 0) := by
  generalize hcs : s.toList = cs at h
  cases h with
  | plain hdigits =>
    have hread : ofText? s = behindSign? false cs := by
      rw [ofText?, hcs]
      split
      rename_i hsign
      split at hsign
      · exact absurd rfl (hdigits.ne_sign_cons rfl _)
      · exact absurd rfl (hdigits.ne_sign_cons rfl _)
      · cases hsign
        rfl
    rw [hread, behindSign?_of_isDigits hdigits, decide_eq_false (by omega), Int.natAbs_natCast]
  | @plus digits hdigits =>
    have hread : ofText? s = behindSign? false digits := by
      rw [ofText?, hcs]
      rfl
    rw [hread, behindSign?_of_isDigits hdigits, decide_eq_false (by omega), Int.natAbs_natCast]
  | @minus digits hdigits =>
    have hread : ofText? s = behindSign? true digits := by
      rw [ofText?, hcs]
      rfl
    rw [hread, behindSign?_of_isDigits hdigits, decide_eq_true (by omega), Int.natAbs_neg,
      Int.natAbs_natCast]

end Binary64

end EntityQuery
