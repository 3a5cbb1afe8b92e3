import EntityQuery.Proofs.Coercion.Form
import EntityQuery.Proofs.Numeric.Binary64

namespace EntityQuery

open Numeric

namespace Numeric

variable {n m : Int}

/-- The word of an integer is the one with its value. -/
theorem int64?_eq_some_iff {v : Int64} : int64? n = some v ↔ v.toInt = n := by
  refine ⟨toInt_of_int64?, ?_⟩
  rintro rfl
  exact int64?_toInt v

/-- An integer has no word of eight bytes exactly if it is out of their range. -/
theorem int64?_eq_none_iff : int64? n = none ↔ n < -2 ^ 63 ∨ 2 ^ 63 ≤ n := by
  rw [int64?, fits]
  simp only [Nat.reduceSub, Nat.pow_eq, Nat.cast_pow, Nat.cast_ofNat, ite_eq_right_iff,
    Bool.and_eq_true, decide_eq_true_eq, reduceCtorEq, imp_false]
  omega

/-- An integer out of the range becomes the end of the range that is nearer. -/
theorem toInt_clampInt64 (n : Int) :
    (clampInt64 n).toInt = max (-2 ^ 63) (min n (2 ^ 63 - 1)) := by
  simp only [clampInt64, Nat.pow_eq, Nat.cast_pow, Nat.cast_ofNat]
  split
  · rw [Int64.toInt_minValue]
    omega
  · split
    · rw [Int64.toInt_ofInt_of_le (by omega) (by omega)]
      omega
    · rw [Int64.toInt_maxValue]
      omega

theorem clampInt64_toInt (v : Int64) : clampInt64 v.toInt = v := by
  rw [← Int64.toInt_inj, toInt_clampInt64]
  have hle := v.le_toInt
  have hlt := v.toInt_lt
  omega

/-- Two integers become the same word exactly if they are the same, or lie beyond the same end of
the range or at it. -/
theorem clampInt64_eq_iff :
    clampInt64 n = clampInt64 m ↔
      n = m ∨ (2 ^ 63 - 1 ≤ n ∧ 2 ^ 63 - 1 ≤ m) ∨ n ≤ -2 ^ 63 ∧ m ≤ -2 ^ 63 := by
  rw [← Int64.toInt_inj, toInt_clampInt64, toInt_clampInt64]
  omega

end Numeric

/-- The mantissa of a decimal with its sign. -/
def Decimal96.coefficient (d : Decimal96) : Int :=
  if d.negative then -d.mantissa else d.mantissa

/-- The integer part of a decimal is cut towards zero. -/
theorem Decimal96.truncate_eq_tdiv (d : Decimal96) :
    d.truncate = d.coefficient.tdiv (10 ^ d.scale) := by
  rw [truncate, coefficient, Nat.pow_eq]
  split
  · rw [Int.neg_tdiv]
    rfl
  · rfl

/-- A scalar and the integer that it stands for: a decimal without its places, or a numeral with
blanks around it. -/
inductive Value.StandsFor : Value → Int → Prop
  | decimal (d : Decimal96) : StandsFor (.decimal d) (d.coefficient.tdiv (10 ^ d.scale))
  | text {s : String} {n : Int} (hnumeral : Text.IsNumeral (Text.trimmed s).toList n) :
      StandsFor (.string s) n

open BinaryFormat in
/-- Floating-point numbers go on far beyond the integers of eight bytes. -/
theorem two_pow_lt_infinityBound : 2 ^ 63 < infinityBound := by
  have hpow (k : Nat) : k < 2 ^ k := Nat.lt_two_pow_self
  have hlarge := hpow 970
  rw [infinityBound]
  omega

namespace Value

open BinaryFormat

variable {s : String} {n : Int}

/-- A numeral becomes the nearest integer that fits, unless it rounds to infinity. -/
theorem toInt64?_of_isNumeral (h : Text.IsNumeral (Text.trimmed s).toList n) :
    (string s).toInt64? = if n.natAbs < infinityBound then some (clampInt64 n) else none := by
  have hread : int64OfText? (Text.trimmed s) = int64? n := by
    rw [int64OfText?, Text.integer?_of_isNumeral h]
    rfl
  have hleast := two_pow_lt_infinityBound
  cases hfits : int64? n with
  | some v =>
    obtain rfl := int64?_eq_some_iff.1 hfits
    have hle := v.le_toInt
    have hlt := v.toInt_lt
    rw [if_pos (by omega), clampInt64_toInt]
    simp only [toInt64?, hread, hfits]
  | none =>
    have hfar := int64?_eq_none_iff.1 hfits
    have hlarge : 2 ^ 63 ≤ n.natAbs := by omega
    have hreal := Binary64.ofText?_of_isNumeral h (by omega)
    simp only [toInt64?, hread, hfits, hreal, Binary64.isFinite_ofDecimal_iff hlarge]
    split
    · rename_i hbound
      obtain ⟨k, hk, htruncate⟩ :=
        Binary64.exists_truncate_ofDecimal (decide (n < 0)) hlarge hbound
      rw [htruncate, Option.some.injEq, clampInt64_eq_iff]
      by_cases hneg : n < 0
      · rw [decide_eq_true hneg, if_pos rfl]
        omega
      · rw [decide_eq_false hneg, if_neg Bool.false_ne_true]
        omega
    · rfl

end Value

/-- The types of the three widths of integers. They are coerced alike. -/
def FieldType.IsInteger (type : FieldType) : Prop :=
  type = .smallInt ∨ type = .integer ∨ type = .bigInt

namespace EntityMeta

open BinaryFormat

variable {entity : EntityMeta} {field : String} {type : FieldType} {value : Value} {n : Int}
  (config : Config) (pattern : Option String) (skipTemporal : Bool)

/-- A scalar for a field of integers becomes an integer, or is refused with its field and its
type. -/
theorem coerce_integer (htype : entity.typeOf? field = some type) (hinteger : type.IsInteger)
    (hscalar : value.isScalar) :
    entity.coerce config field value pattern skipTemporal =
      value.toInt64?.elim (.error (entity.mismatch field type value)) fun v => .ok (.int v) := by
  have htemporal : type.isTemporal = false := by
    rcases hinteger with rfl | rfl | rfl <;> rfl
  have hread : type.coerceScalar? (config.patterns pattern) value = value.toInt64?.map .int := by
    rcases hinteger with rfl | rfl | rfl <;> rfl
  rw [coerce_declared htype, htemporal, Bool.false_and, if_neg Bool.false_ne_true,
    FieldType.coerce_of_isScalar hscalar, hread]
  cases value.toInt64? <;> rfl

/-- A value becomes the integer it stands for when that fits into eight bytes, and is refused when
it does not. -/
structure IsExact (entity : EntityMeta) (config : Config) (field : String) (type : FieldType)
    (pattern : Option String) (skipTemporal : Bool) (value : Value) (n : Int) : Prop where
  fits : ∀ v : Int64, v.toInt = n →
    entity.coerce config field value pattern skipTemporal = .ok (.int v)
  refused : (∀ v : Int64, v.toInt ≠ n) →
    entity.coerce config field value pattern skipTemporal =
      .error (entity.mismatch field type value)

/-- A decimal becomes its integer part, and is refused if that does not fit. -/
theorem isExact_decimal (htype : entity.typeOf? field = some type) (hinteger : type.IsInteger)
    (d : Decimal96) :
    entity.IsExact config field type pattern skipTemporal (.decimal d)
      (d.coefficient.tdiv (10 ^ d.scale)) := by
  rw [← d.truncate_eq_tdiv]
  have hscalar : (Value.decimal d).isScalar := rfl
  have hread := coerce_integer config pattern skipTemporal htype hinteger hscalar
  refine ⟨fun v hv => ?_, fun hnone => ?_⟩
  · have hfits : (Value.decimal d).toInt64? = some v := int64?_eq_some_iff.2 hv
    rw [hread, hfits]
    rfl
  · have hfits : (Value.decimal d).toInt64? = none :=
      Option.eq_none_iff_forall_ne_some.2 fun v hv => hnone v (int64?_eq_some_iff.1 hv)
    rw [hread, hfits]
    rfl

/-- A numeral that does not fit is not refused: it is read once more as a floating-point number, and
becomes the nearest integer that fits. Only a numeral too large for that as well is refused. -/
theorem coerce_numeral (htype : entity.typeOf? field = some type) (hinteger : type.IsInteger)
    {s : String} (h : Text.IsNumeral (Text.trimmed s).toList n) :
    entity.coerce config field (.string s) pattern skipTemporal =
      if n.natAbs < infinityBound then .ok (.int (clampInt64 n))
      else .error (entity.mismatch field type (.string s)) := by
  rw [coerce_integer _ _ _ htype hinteger rfl, Value.toInt64?_of_isNumeral h]
  split <;> rfl

/-- A numeral is exact when it fits, and again when it is too large for any number. -/
theorem isExact_numeral_iff (htype : entity.typeOf? field = some type) (hinteger : type.IsInteger)
    {s : String} (h : Text.IsNumeral (Text.trimmed s).toList n) :
    entity.IsExact config field type pattern skipTemporal (.string s) n ↔
      (-2 ^ 63 ≤ n ∧ n < 2 ^ 63) ∨ infinityBound ≤ n.natAbs := by
  have hread := coerce_numeral config pattern skipTemporal htype hinteger h
  have hleast := two_pow_lt_infinityBound
  constructor
  · intro hexact
    by_contra hbetween
    have hnone (v : Int64) : v.toInt ≠ n := by
      have hle := v.le_toInt
      have hlt := v.toInt_lt
      omega
    rw [if_pos (by omega), hexact.refused hnone] at hread
    cases hread
  · rintro (⟨hle, hlt⟩ | hlarge)
    · have hn : (Int64.ofInt n).toInt = n := Int64.toInt_ofInt_of_le hle hlt
      refine ⟨?_, fun hnone => absurd hn (hnone _)⟩
      rintro v rfl
      rw [hread, if_pos (by omega), clampInt64_toInt]
    · refine ⟨?_, fun _ => by rw [hread, if_neg (by omega)]⟩
      rintro v rfl
      have hle := v.le_toInt
      have hlt := v.toInt_lt
      omega

/-- What is not refused becomes the nearest integer that fits. -/
theorem coerce_of_standsFor (htype : entity.typeOf? field = some type) (hinteger : type.IsInteger)
    (h : value.StandsFor n)
    (hok : (entity.coerce config field value pattern skipTemporal).isOk) :
    entity.coerce config field value pattern skipTemporal = .ok (.int (clampInt64 n)) := by
  cases h with
  | decimal d =>
    have hexact := isExact_decimal config pattern skipTemporal htype hinteger d
    by_cases hfits : ∃ v : Int64, v.toInt = d.coefficient.tdiv (10 ^ d.scale)
    · obtain ⟨v, hv⟩ := hfits
      rw [hexact.fits v hv, ← hv, clampInt64_toInt]
    · rw [hexact.refused (not_exists.1 hfits)] at hok
      cases hok
  | text hnumeral =>
    rw [coerce_numeral _ _ _ htype hinteger hnumeral] at hok ⊢
    split at hok
    · rw [if_pos ‹_›]
    · cases hok

/-- How a field of integers reads. Decimals are exact. A numeral is exact if it fits, and if it is
refused, but in between it becomes the nearest integer that fits, and so different values become the
same there. -/
structure ReadsIntegers (entity : EntityMeta) (config : Config) (field : String) (type : FieldType)
    (pattern : Option String) (skipTemporal : Bool) : Prop where
  decimals : ∀ d : Decimal96,
    entity.IsExact config field type pattern skipTemporal (.decimal d)
      (d.coefficient.tdiv (10 ^ d.scale))
  numerals : ∀ (s : String) (n : Int), Text.IsNumeral (Text.trimmed s).toList n →
    (entity.IsExact config field type pattern skipTemporal (.string s) n ↔
      (-2 ^ 63 ≤ n ∧ n < 2 ^ 63) ∨ infinityBound ≤ n.natAbs)
  nearest : ∀ (s : String) (n : Int), Text.IsNumeral (Text.trimmed s).toList n →
    entity.coerce config field (.string s) pattern skipTemporal =
      if n.natAbs < infinityBound then .ok (.int (clampInt64 n))
      else .error (entity.mismatch field type (.string s))
  collisions : ∀ (value other : Value) (n m : Int), value.StandsFor n → other.StandsFor m →
    n ≠ m → (entity.coerce config field value pattern skipTemporal).isOk →
    (entity.coerce config field other pattern skipTemporal).isOk →
    (entity.coerce config field value pattern skipTemporal =
        entity.coerce config field other pattern skipTemporal ↔
      (2 ^ 63 - 1 ≤ n ∧ 2 ^ 63 - 1 ≤ m) ∨ n ≤ -2 ^ 63 ∧ m ≤ -2 ^ 63)

/-- Decimals and numerals become integers in this way in every field of integers, of whichever size.
The pattern and the choice to skip temporal fields have no part in it. -/
theorem readsIntegers_of_isInteger (htype : entity.typeOf? field = some type)
    (hinteger : type.IsInteger) :
    entity.ReadsIntegers config field type pattern skipTemporal where
  decimals := isExact_decimal _ _ _ htype hinteger
  numerals s n := isExact_numeral_iff _ _ _ htype hinteger
  nearest s n := coerce_numeral _ _ _ htype hinteger
  collisions value other n m hn hm hne hvalue hother := by
    rw [coerce_of_standsFor _ _ _ htype hinteger hn hvalue,
      coerce_of_standsFor _ _ _ htype hinteger hm hother,
      Except.ok.injEq, Value.int.injEq, clampInt64_eq_iff]
    simp [hne]

/-- A user's identifier is such a field. -/
theorem readsIntegers_of_isInteger_id :
    Samples.user.typeOf? "id" = some .bigInt ∧ FieldType.bigInt.IsInteger ∧
      Samples.user.ReadsIntegers {} "id" .bigInt none false := by
  have htype : Samples.user.typeOf? "id" = some .bigInt := by decide +kernel
  have hinteger : FieldType.bigInt.IsInteger := Or.inr (Or.inr rfl)
  exact ⟨htype, hinteger, readsIntegers_of_isInteger {} none false htype hinteger⟩

/-- The number behind the last one that fits is neither refused nor kept. It becomes the one before
it. -/
theorem not_isExact_numeral :
    Text.IsNumeral (Text.trimmed "9223372036854775808").toList (2 ^ 63) ∧
      Samples.user.coerce {} "id" (.string "9223372036854775808") none false =
        Samples.user.coerce {} "id" (.string "9223372036854775807") none false ∧
      ¬ Samples.user.IsExact {} "id" .bigInt none false
        (.string "9223372036854775808") (2 ^ 63) := by
  have htype : Samples.user.typeOf? "id" = some .bigInt := by decide +kernel
  have hinteger : FieldType.bigInt.IsInteger := Or.inr (Or.inr rfl)
  have hbehind : Text.IsNumeral (Text.trimmed "9223372036854775808").toList (2 ^ 63) :=
    Text.IsNumeral.plain (by decide +kernel)
  have hlast : Text.IsNumeral (Text.trimmed "9223372036854775807").toList (2 ^ 63 - 1) :=
    Text.IsNumeral.plain (by decide +kernel)
  have hbound := two_pow_lt_infinityBound
  refine ⟨hbehind, ?_, ?_⟩
  · have hclamp : clampInt64 (2 ^ 63) = clampInt64 (2 ^ 63 - 1) := clampInt64_eq_iff.2 (by omega)
    rw [coerce_numeral _ _ _ htype hinteger hbehind, coerce_numeral _ _ _ htype hinteger hlast,
      if_pos (by omega), if_pos (by omega), hclamp]
  · rw [isExact_numeral_iff _ _ _ htype hinteger hbehind]
    omega

end EntityMeta

end EntityQuery
