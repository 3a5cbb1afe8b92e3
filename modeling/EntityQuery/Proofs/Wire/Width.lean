import EntityQuery.Proofs.Results
import EntityQuery.Proofs.Value
import EntityQuery.Wire.Parameter

namespace EntityQuery

namespace Wire

variable {type : NativeType} {v : Value} {width : Nat} {bytes : Bytes}

theorem bind_null (type : ColumnType) : bind type .null = .ok none := by
  rw [bind]

/-- A value that is neither null nor a list is bound as its payload. -/
theorem bind_of_isScalar (type : ColumnType) (hv : v.isScalar) :
    bind type v = (payload type v).map some := by
  cases v with
  | null => cases hv
  | list items => cases hv
  | _ => simp only [bind]

/-- What is bound is the payload, and a value without bytes is null. -/
theorem bind_native_eq_ok {cell : Option Bytes} (h : bind (.native type) v = .ok cell) :
    cell = none ∧ v = .null ∨
      ∃ bytes, cell = some bytes ∧ v.isScalar ∧ nativePayload type v = .ok bytes := by
  by_cases hv : v.isScalar
  · rw [bind_of_isScalar _ hv] at h
    obtain ⟨bytes, hbytes, hcell⟩ := map_eq_ok h
    exact Or.inr ⟨bytes, hcell.symm, hv, hbytes⟩
  · cases v with
    | null =>
      rw [bind_null] at h
      exact Or.inl ⟨(Except.ok.inj h).symm, rfl⟩
    | list items => simp [bind] at h
    | _ => exact absurd rfl hv

/-- Whole numbers take the bytes of their column. -/
theorem length_wholeBytes {n : Int64} (h : wholeBytes width n = .ok bytes) :
    bytes.length = width := by
  rw [wholeBytes] at h
  split at h
  · cases h
    exact length_signedBytes _ _
  · cases h

theorem length_longFloatBytes (x : Binary64) : (longFloatBytes x).length = 8 :=
  length_bigEndian _ _

/-- A whole number has the width that it was asked for. -/
theorem length_of_takeWhole (h : (type.takeWhole v).bind (wholeBytes width) = .ok bytes) :
    bytes.length = width := by
  obtain ⟨n, -, hbytes⟩ := bind_eq_ok h
  exact length_wholeBytes hbytes

/-- Of the values that a type of one width takes, only a decimal in a floating-point type of four
bytes is written with another width. -/
theorem length_nativePayload (hwidth : type.width? = some width)
    (hdecimal : type = .float4 → ∀ d, v ≠ .decimal d) (h : nativePayload type v = .ok bytes) :
    bytes.length = width := by
  cases type with
  | bool =>
    cases hwidth
    cases v with
    | bool b =>
      cases h
      rfl
    | _ => cases h
  | int2 =>
    cases hwidth
    exact length_of_takeWhole h
  | int4 =>
    cases hwidth
    exact length_of_takeWhole h
  | int8 =>
    cases hwidth
    exact length_of_takeWhole h
  | float4 =>
    cases hwidth
    cases v with
    | int n =>
      cases h
      exact length_bigEndian _ _
    -- The one form that has another width than its type.
    | decimal d => exact absurd rfl (hdecimal rfl d)
    | _ =>
      simp only [nativePayload] at h
      obtain ⟨x, -, rfl⟩ := map_eq_ok h
      exact length_bigEndian _ _
  | float8 =>
    cases hwidth
    cases v with
    | int n =>
      cases h
      exact length_longFloatBytes _
    | decimal d =>
      cases h
      exact length_longFloatBytes _
    | _ =>
      simp only [nativePayload] at h
      obtain ⟨x, -, rfl⟩ := map_eq_ok h
      exact length_longFloatBytes x
  | date =>
    cases hwidth
    obtain ⟨d, -, rfl⟩ := map_eq_ok h
    exact length_signedBytes _ _
  | time =>
    cases hwidth
    cases v with
    | time t =>
      cases h
      exact length_signedBytes _ _
    | _ => cases h
  | timestamp =>
    cases hwidth
    obtain ⟨dt, -, rfl⟩ := map_eq_ok h
    exact length_signedBytes _ _
  | timestamptz =>
    cases hwidth
    obtain ⟨dt, -, rfl⟩ := map_eq_ok h
    exact length_signedBytes _ _
  | uuid =>
    cases hwidth
    obtain ⟨u, -, rfl⟩ := map_eq_ok h
    exact u.length_bytes
  | _ => cases hwidth

/-- A column type whose values have equally many bytes refuses a value, stores null or gets exactly
so many bytes, if and only if it is not the floating-point type of four bytes with a decimal. -/
theorem width_of_bind_iff (hwidth : type.width? = some width) (v : Value) :
    (∀ cell, bind (.native type) v = .ok cell →
        cell = none ∧ v = .null ∨ ∃ bytes, cell = some bytes ∧ bytes.length = width) ↔
      ¬ (type = .float4 ∧ ∃ d, v = .decimal d) := by
  constructor
  · rintro hall ⟨rfl, d, rfl⟩
    cases hwidth
    have hbind : bind (.native .float4) (.decimal d) = .ok (some (longFloatBytes d.toBinary64)) :=
      bind_of_isScalar _ rfl
    rcases hall _ hbind with ⟨hcell, -⟩ | ⟨bytes, hcell, hlength⟩
    · cases hcell
    · cases hcell
      rw [length_longFloatBytes] at hlength
      cases hlength
  · intro hdecimal cell hcell
    rcases bind_native_eq_ok hcell with hnull | ⟨bytes, rfl, -, hbytes⟩
    · exact Or.inl hnull
    · have hlength := length_nativePayload hwidth
        (fun htype d hv => hdecimal ⟨htype, d, hv⟩) hbytes
      exact Or.inr ⟨bytes, rfl, hlength⟩

/-- A text in a column of two bytes has two bytes, if it is bound at all. -/
theorem width_of_bind_iff_text_in_int2 :
    NativeType.width? .int2 = some 2 ∧
      ((∀ cell, bind (.native .int2) (.string " 7 ") = .ok cell →
          cell = none ∧ Value.string " 7 " = .null ∨
            ∃ bytes, cell = some bytes ∧ bytes.length = 2) ↔
        ¬ (NativeType.int2 = .float4 ∧ ∃ d, Value.string " 7 " = .decimal d)) :=
  ⟨rfl, width_of_bind_iff rfl (.string " 7 ")⟩

/-- One and a half as a decimal is written with eight bytes into a type of four. -/
theorem decimal_in_float4 :
    ¬ ∀ (type : NativeType) (width : Nat) (v : Value) (cell : Option Bytes),
      type.width? = some width → bind (.native type) v = .ok cell →
        cell = none ∧ v = .null ∨ ∃ bytes, cell = some bytes ∧ bytes.length = width := by
  intro hall
  have hbind : bind (.native .float4) (.decimal ⟨false, 15, 1, by decide, by decide⟩) =
      .ok (some (longFloatBytes (Decimal96.toBinary64 ⟨false, 15, 1, by decide, by decide⟩))) :=
    bind_of_isScalar _ rfl
  rcases hall .float4 4 _ _ rfl hbind with ⟨hcell, -⟩ | ⟨bytes, hcell, hlength⟩
  · cases hcell
  · cases hcell
    rw [length_longFloatBytes] at hlength
    cases hlength

end Wire

end EntityQuery
