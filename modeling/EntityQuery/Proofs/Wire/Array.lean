import EntityQuery.Proofs.Wire.Scalar
import Mathlib.Data.List.Forall2

namespace EntityQuery.Wire

variable {type : NativeType} {item : Value} {items : List Value} {cells : List (Option Bytes)}

/-! ### Runs of bytes -/

theorem takeBytes?_append {count : Nat} {bytes : Bytes} (h : bytes.length = count)
    (rest : Bytes) : takeBytes? count (bytes ++ rest) = some (bytes, rest) := by
  simp [takeBytes?, ← h]

/-- A length that fits four bytes is read back from them. -/
theorem ofBigEndian_length {n : Nat} (h : n ≤ maxLength) : ofBigEndian (bigEndian 4 n) = n := by
  apply ofBigEndian_bigEndian
  rw [maxLength] at h
  rw [Nat.pow_eq]
  omega

/-- A length that fits is read as it was written, and never as the mark of null. -/
theorem ofSignedBytes_length {n : Nat} (h : n ≤ maxLength) :
    ofSignedBytes (bigEndian 4 n) = n := by
  have hhalf : 2 * n < Nat.pow 256 4 := by
    rw [maxLength] at h
    rw [Nat.pow_eq]
    omega
  rw [ofSignedBytes, ofBigEndian_length h, length_bigEndian]
  exact if_pos hhalf

/-! ### Elements -/

/-- What a list of a type holds, apart from nulls. -/
inductive IsElement : NativeType → Value → Prop
  | int4 (n : Int64) : IsElement .int4 (.int n)
  | int8 (n : Int64) : IsElement .int8 (.int n)
  | text (s : String) : IsElement .text (.string s)
  | varchar (s : String) : IsElement .varchar (.string s)

/-- The elements of a list that can be read are read as they are. -/
theorem IsElement.readsAs (h : IsElement type item) : ReadsAs type item item := by
  cases h with
  | int4 n => exact .int4 n
  | int8 n => exact .int8 n
  | text s => exact .text rfl rfl
  | varchar s => exact .text rfl rfl

/-- A cell that stands for an element: null has no bytes, and other bytes are read as the element
and can tell their length. -/
inductive Represents (type : NativeType) : Value → Option Bytes → Prop
  | null : Represents type .null none
  | bytes {item : Value} {bytes : Bytes} (hitem : item.isScalar)
      (hread : readNative? type bytes = some item) (hlength : bytes.length ≤ maxLength) :
      Represents type item (some bytes)

/-- A cell that was bound for an element or for null represents it. -/
theorem represents_of_bind (hitem : item = .null ∨ IsElement type item) {cell : Option Bytes}
    (hcell : bind (.native type) item = .ok cell) (hsendable : isSendable cell) :
    Represents type item cell := by
  rcases bind_native_eq_ok hcell with ⟨rfl, rfl⟩ | ⟨bytes, rfl, hscalar, hbytes⟩
  · exact .null
  · rcases hitem with rfl | helement
    · cases hscalar
    · refine .bytes hscalar (helement.readsAs.readNative?_of_nativePayload hbytes) ?_
      simpa [isSendable] using hsendable

/-- The cells of a list stand for its elements, one by one. -/
theorem represents_of_bindAll (hitems : ∀ item ∈ items, item = .null ∨ IsElement type item)
    (hcells : bindAll (.native type) items = .ok cells) :
    List.Forall₂ (Represents type) items cells := by
  induction items generalizing cells with
  | nil =>
    rw [bindAll] at hcells
    cases hcells
    exact .nil
  | cons item rest ih =>
    rw [bindAll] at hcells
    split at hcells
    · cases hcells
    · rename_i cell hcell
      split at hcells
      · rename_i hsendable
        obtain ⟨others, hothers, rfl⟩ := map_eq_ok hcells
        have hfirst := represents_of_bind (hitems item List.mem_cons_self) hcell hsendable
        have hrest := ih (fun item hmem => hitems item (List.mem_cons_of_mem _ hmem)) hothers
        exact .cons hfirst hrest
      · cases hcells

/-! ### Reading -/

/-- Cells are read as the elements that they stand for, unless one of them is null. -/
theorem readElements?_flatMap (h : List.Forall₂ (Represents type) items cells) :
    readElements? type cells.length (cells.flatMap cellBytes) =
      if items.any Value.isNull then none else some items := by
  induction h with
  | nil => rfl
  | @cons item cell items cells hfirst hrest ih =>
    rw [List.length_cons, List.flatMap_cons, readElements?]
    cases hfirst with
    | null =>
      rw [cellBytes, takeBytes?_append (length_signedBytes 4 (-1))]
      rfl
    | @bytes _ bytes hitem hread hlength =>
      have hscalar : item.isNull = false := by
        cases item with
        | null => cases hitem
        | _ => rfl
      rw [cellBytes, List.append_assoc, takeBytes?_append (length_bigEndian 4 _)]
      have hnonneg : ¬ (bytes.length : Int) < 0 := by omega
      simp only [Option.bind_eq_bind, Option.bind_some, ofSignedBytes_length hlength,
        if_neg hnonneg, Int.toNat_natCast, takeBytes?_append rfl, hread, ih, List.any_cons,
        hscalar, Bool.false_or]
      cases items.any Value.isNull <;> rfl

/-- A list that was written is read as it was, unless it has a null. -/
theorem readArray?_arrayBytes (elementOid firstIndex : Nat)
    (h : List.Forall₂ (Represents type) items cells) (hlength : items.length ≤ maxLength) :
    readArray? type (arrayBytes elementOid firstIndex cells) =
      if items.any Value.isNull then none else some (.list items) := by
  rw [h.length_eq] at hlength
  have hbytes : arrayBytes elementOid firstIndex cells =
      bigEndian 4 1 ++
        ((bigEndian 4 (if cells.any Option.isNone then 1 else 0) ++ bigEndian 4 elementOid) ++
          (bigEndian 4 cells.length ++ (bigEndian 4 firstIndex ++ cells.flatMap cellBytes))) := by
    simp only [arrayBytes, List.append_assoc]
  have hone : ofBigEndian (bigEndian 4 1) = 1 := by decide
  have hnonneg : ¬ (cells.length : Int) < 0 := by omega
  rw [hbytes, readArray?, takeBytes?_append (length_bigEndian 4 1)]
  simp only [Option.bind_eq_bind, Option.bind_some]
  rw [takeBytes?_append (by simp)]
  simp only [Option.bind_some, hone, Nat.one_ne_zero, if_false, if_true]
  rw [takeBytes?_append (length_bigEndian 4 _)]
  simp only [Option.bind_some]
  rw [takeBytes?_append (length_bigEndian 4 _)]
  simp only [Option.bind_some, ofSignedBytes_length hlength, if_neg hnonneg,
    ofBigEndian_length hlength, readElements?_flatMap h]
  cases items.any Value.isNull <;> rfl

/-! ### Binding -/

theorem length_textBytes (s : String) : (textBytes s).length = s.utf8ByteSize := by
  rw [textBytes, Array.length_toList]
  rfl

/-- The elements of a list are bound if each of them is, with a length that can be told. -/
theorem exists_bindAll_iff {type : ColumnType} :
    (∃ cells, bindAll type items = .ok cells) ↔
      ∀ item ∈ items, ∃ cell, bind type item = .ok cell ∧ isSendable cell := by
  induction items with
  | nil => simp [bindAll]
  | cons item rest ih =>
    rw [List.forall_mem_cons, ← ih]
    constructor
    · rintro ⟨cells, hcells⟩
      rw [bindAll] at hcells
      split at hcells
      · cases hcells
      · rename_i cell hcell
        split at hcells
        · rename_i hsendable
          obtain ⟨others, hothers, -⟩ := map_eq_ok hcells
          exact ⟨⟨cell, hcell, hsendable⟩, others, hothers⟩
        · cases hcells
    · rintro ⟨⟨cell, hcell, hsendable⟩, others, hothers⟩
      refine ⟨cell :: others, ?_⟩
      rw [bindAll, hcell, hothers]
      exact if_pos hsendable

/-- A scalar can be sent in a list exactly if it has a payload that is not too long. -/
theorem exists_sendable_iff_of_isScalar (hitem : item.isScalar) :
    (∃ cell, bind (.native type) item = .ok cell ∧ isSendable cell) ↔
      ∃ bytes, nativePayload type item = .ok bytes ∧ bytes.length ≤ maxLength := by
  have hbind : bind (.native type) item = (nativePayload type item).map some :=
    bind_of_isScalar _ hitem
  rw [hbind]
  constructor
  · rintro ⟨cell, hcell, hsendable⟩
    obtain ⟨bytes, hbytes, rfl⟩ := map_eq_ok hcell
    exact ⟨bytes, hbytes, by simpa [isSendable] using hsendable⟩
  · rintro ⟨bytes, hbytes, hlength⟩
    exact ⟨some bytes, by rw [hbytes]; rfl, by simpa [isSendable] using hlength⟩

/-- A text has room in a list as far as its length can be told. -/
def IsShort (item : Value) : Prop :=
  ∀ s, item = .string s → s.utf8ByteSize ≤ maxLength

theorem isShort_int (n : Int64) : IsShort (.int n) := by
  intro s hs
  cases hs

theorem isShort_string {s : String} : IsShort (.string s) ↔ s.utf8ByteSize ≤ maxLength := by
  simp [IsShort]

/-- Whole numbers are never too long. -/
theorem exists_wholeBytes_iff {width : Nat} (hwidth : width ≤ maxLength) {n : Int64} :
    (∃ bytes, wholeBytes width n = .ok bytes ∧ bytes.length ≤ maxLength) ↔
      ∃ bytes, wholeBytes width n = .ok bytes := by
  constructor
  · rintro ⟨bytes, hbytes, -⟩
    exact ⟨bytes, hbytes⟩
  · rintro ⟨bytes, hbytes⟩
    exact ⟨bytes, hbytes, by rw [length_wholeBytes hbytes]; exact hwidth⟩

theorem exists_textBytes_iff {s : String} :
    (∃ bytes, (.ok (textBytes s) : Payload) = .ok bytes ∧ bytes.length ≤ maxLength) ↔
      IsShort (.string s) := by
  simp [length_textBytes, isShort_string]

/-- A null always has room, a whole number in its range and a text as far as its length goes. -/
theorem exists_sendable_iff (hitem : item = .null ∨ IsElement type item) :
    (∃ cell, bind (.native type) item = .ok cell ∧ isSendable cell) ↔
      InRange type item ∧ IsShort item := by
  rcases hitem with rfl | helement
  · have hshort : IsShort .null := by
      intro s hs
      cases hs
    exact ⟨fun _ => ⟨trivial, hshort⟩, fun _ => ⟨none, bind_null _, rfl⟩⟩
  · rw [exists_sendable_iff_of_isScalar helement.readsAs.isScalar,
      ← helement.readsAs.exists_nativePayload_iff]
    cases helement with
    | int4 n =>
      rw [and_iff_left (isShort_int n)]
      exact exists_wholeBytes_iff (by decide)
    | int8 n =>
      rw [and_iff_left (isShort_int n)]
      exact exists_wholeBytes_iff (by decide)
    | text s =>
      rw [and_iff_right ⟨_, rfl⟩]
      exact exists_textBytes_iff
    | varchar s =>
      rw [and_iff_right ⟨_, rfl⟩]
      exact exists_textBytes_iff

/-- A list is bound as its members one after another, behind a header that gives their number, if
that fits. -/
theorem bind_list (type : ColumnType) (items : List Value) :
    bind (.array type) (.list items) =
      if items.length ≤ maxLength then
        (bindAll type items).map fun cells => some (arrayBytes type.oid 1 cells)
      else .error .tooLong := by
  rw [bind]

/-- A list is bound if it is not too long and its elements are bound. -/
theorem bind_list_eq_ok_iff {type : ColumnType} {cell : Option Bytes} :
    bind (.array type) (.list items) = .ok cell ↔
      items.length ≤ maxLength ∧
        ∃ cells, bindAll type items = .ok cells ∧ cell = some (arrayBytes type.oid 1 cells) := by
  rw [bind_list]
  by_cases hlength : items.length ≤ maxLength
  · rw [if_pos hlength, and_iff_right hlength]
    constructor
    · intro hcell
      obtain ⟨cells, hcells, rfl⟩ := map_eq_ok hcell
      exact ⟨cells, hcells, rfl⟩
    · rintro ⟨cells, hcells, rfl⟩
      rw [hcells]
      rfl
  · rw [if_neg hlength]
    constructor
    · intro hcell
      cases hcell
    · rintro ⟨hle, -⟩
      exact absurd hle hlength

/-- A list of elements and nulls is bound exactly if it is not too long and each of them lies in the
range of the type and is not too long itself. -/
theorem exists_bind_list_iff (hitems : ∀ item ∈ items, item = .null ∨ IsElement type item) :
    (∃ cell, bind (.array (.native type)) (.list items) = .ok cell) ↔
      items.length ≤ maxLength ∧ ∀ item ∈ items, InRange type item ∧ IsShort item := by
  have helements : (∀ item ∈ items, InRange type item ∧ IsShort item) ↔
      ∃ cells, bindAll (.native type) items = .ok cells := by
    rw [exists_bindAll_iff]
    exact forall₂_congr fun item hmem => (exists_sendable_iff (hitems item hmem)).symm
  simp only [bind_list_eq_ok_iff, helements]
  constructor
  · rintro ⟨_, hlength, cells, hcells, -⟩
    exact ⟨hlength, cells, hcells⟩
  · rintro ⟨hlength, cells, hcells⟩
    exact ⟨_, hlength, cells, hcells, rfl⟩

/-! ### Columns of lists -/

/-- A list is read by the reader for lists of the element type. -/
theorem readCell?_array (htype : type ∈ listElements) (bytes : Bytes) :
    readCell? (.array (.native type)) (some bytes) = readArray? type bytes := by
  rw [readCell?, reader?, if_pos htype]
  rfl

/-- What a column of lists gives back of a list. -/
theorem readCell?_of_bind_list (htype : type ∈ listElements)
    (hitems : ∀ item ∈ items, item = .null ∨ IsElement type item) {cell : Option Bytes}
    (hcell : bind (.array (.native type)) (.list items) = .ok cell) :
    readCell? (.array (.native type)) cell =
      if items.any Value.isNull then none else some (.list items) := by
  obtain ⟨hlength, cells, hcells, rfl⟩ := bind_list_eq_ok_iff.1 hcell
  rw [readCell?_array htype]
  exact readArray?_arrayBytes _ 1 (represents_of_bindAll hitems hcells) hlength

theorem any_isNull_eq_false_iff :
    items.any Value.isNull = false ↔ ∀ item ∈ items, item ≠ .null := by
  have hnull (v : Value) : v.isNull = false ↔ v ≠ .null := by
    cases v <;> simp [Value.isNull]
  simp only [List.any_eq_false, Bool.not_eq_true, hnull]

/-- A column of lists takes a list if its length and its elements have room, and gives it back if
and only if it has no null. -/
theorem readCell?_bind_list_iff (htype : type ∈ listElements)
    (hitems : ∀ item ∈ items, item = .null ∨ IsElement type item) :
    ((∃ cell, bind (.array (.native type)) (.list items) = .ok cell) ↔
        items.length ≤ maxLength ∧ ∀ item ∈ items, InRange type item ∧ IsShort item) ∧
      ∀ cell, bind (.array (.native type)) (.list items) = .ok cell →
        (readCell? (.array (.native type)) cell = some (.list items) ↔
          ∀ item ∈ items, item ≠ .null) := by
  refine ⟨exists_bind_list_iff hitems, fun cell hcell => ?_⟩
  rw [readCell?_of_bind_list htype hitems hcell, ← any_isNull_eq_false_iff]
  cases items.any Value.isNull <;> simp

/-- A list of a text and a null is sent, and not read back. -/
theorem readCell?_bind_list_iff_texts :
    NativeType.text ∈ listElements ∧
      (∀ item ∈ [Value.string "a", .null], item = .null ∨ IsElement .text item) ∧
      ((∃ cell, bind (.array (.native .text)) (.list [.string "a", .null]) = .ok cell) ↔
          [Value.string "a", .null].length ≤ maxLength ∧
            ∀ item ∈ [Value.string "a", .null], InRange .text item ∧ IsShort item) ∧
      ∀ cell, bind (.array (.native .text)) (.list [.string "a", .null]) = .ok cell →
        (readCell? (.array (.native .text)) cell = some (.list [.string "a", .null]) ↔
          ∀ item ∈ [Value.string "a", .null], item ≠ .null) :=
  have htype : NativeType.text ∈ listElements := by decide
  have hitems : ∀ item ∈ [Value.string "a", .null], item = .null ∨ IsElement .text item := by
    simp [IsElement.text]
  ⟨htype, hitems, readCell?_bind_list_iff htype hitems⟩

/-- A list with a null is taken by a column that cannot give it back. -/
theorem null_in_list :
    ¬ ∀ (type : NativeType) (items : List Value) (cell : Option Bytes), type ∈ listElements →
      (∀ item ∈ items, item = .null ∨ IsElement type item) →
        bind (.array (.native type)) (.list items) = .ok cell →
          readCell? (.array (.native type)) cell = some (.list items) := by
  intro hall
  have hitems : ∀ item ∈ [Value.int 1, .null], item = .null ∨ IsElement .int4 item := by
    simp [IsElement.int4]
  have hcell : bind (.array (.native .int4)) (.list [.int 1, .null]) =
      .ok (some (arrayBytes 23 1 [some [0, 0, 0, 1], none])) := rfl
  have hread := readCell?_of_bind_list (by decide) hitems hcell
  rw [hall _ _ _ (by decide) hitems hcell] at hread
  cases hread

end EntityQuery.Wire
