import EntityQuery.Proofs.Sql.Reading
import EntityQuery.Proofs.Text.Basic
import EntityQuery.Wire.Bytes
import Mathlib.Data.List.Basic

namespace EntityQuery.Sql

/-! ### The scan -/

/-- A test of a character, made of a byte. -/
def ofByte (p : Char → Bool) (b : UInt8) : Bool :=
  p (Char.ofUInt8 b)

/-- The end of a quoted run behind its opening quote, as bytes. -/
def quotedBytes (quote : Char) : List UInt8 → List UInt8 × List UInt8
  | [] => ([], [])
  | [b] => ([b], [])
  | b :: d :: rest =>
    if ofByte (· == quote) b then
      if ofByte (· == quote) d then
        let (run, after) := quotedBytes quote rest
        (b :: d :: run, after)
      else ([b], d :: rest)
    else
      let (run, after) := quotedBytes quote (d :: rest)
      (b :: run, after)

/-- The number of bytes of the first character. -/
def charLength (bytes : List UInt8) : Nat :=
  (bytes.toByteArray.utf8DecodeChar? 0).elim 1 Char.utf8Size

/-- A part of the bytes of a statement. -/
inductive ByteSegment
  | verbatim (bytes : List UInt8)
  | field (name : List UInt8)
  | placeholder (name : List UInt8)

/-- The first segment of a row of bytes that begins with `b`, and what follows it. -/
def firstByteSegment (qualifier : List UInt8) (b : UInt8) (rest : List UInt8) :
    ByteSegment × List UInt8 :=
  if ofByte (· == '\x27') b ∨ ofByte (· == '\x22') b then
    let (run, after) := quotedBytes (Char.ofUInt8 b) rest
    (.verbatim (b :: run), after)
  else if ofByte (· == ':') b ∧ rest.head?.any (ofByte (· == ':')) then
    (.verbatim (b :: rest.take 1 ++ rest.tail.takeWhile (ofByte isWordChar)),
      rest.tail.dropWhile (ofByte isWordChar))
  else if ofByte (· == ':') b ∧ rest.head?.any (ofByte isWordStart) then
    (.placeholder (rest.takeWhile (ofByte isWordChar)), rest.dropWhile (ofByte isWordChar))
  else if ofByte Char.isDigit b ∨ ofByte (· == '$') b then
    (.verbatim (b :: rest.takeWhile (ofByte isWordChar)), rest.dropWhile (ofByte isWordChar))
  else if ofByte isWordStart b then
    let word := b :: rest.takeWhile (ofByte isWordChar)
    let after := rest.dropWhile (ofByte isWordChar)
    if word = qualifier ∧ after.head?.any (ofByte (· == '.')) ∧
        after.tail.head?.any (ofByte isWordStart) then
      (.field (after.tail.takeWhile (ofByte isWordChar)),
        after.tail.dropWhile (ofByte isWordChar))
    else (.verbatim word, after)
  else
    (.verbatim (b :: rest.take (charLength (b :: rest) - 1)),
      rest.drop (charLength (b :: rest) - 1))

theorem quotedBytes_length (quote : Char) (bytes : List UInt8) :
    (quotedBytes quote bytes).2.length ≤ bytes.length := by
  fun_induction quotedBytes quote bytes <;> simp_all <;> omega

/-- Behind the first segment there is less than before, since the segment has at least the byte
`b`. -/
theorem firstByteSegment_length (qualifier : List UInt8) (b : UInt8) (rest : List UInt8) :
    (firstByteSegment qualifier b rest).2.length ≤ rest.length := by
  have hdrop (bytes : List UInt8) : (bytes.dropWhile (ofByte isWordChar)).length ≤ bytes.length :=
    (List.dropWhile_sublist _).length_le
  have hrest := hdrop rest
  have htail := hdrop rest.tail
  have hafter := hdrop (rest.dropWhile (ofByte isWordChar)).tail
  have hquoted := quotedBytes_length (Char.ofUInt8 b) rest
  simp only [List.length_tail] at htail hafter
  rw [firstByteSegment]
  split
  · exact hquoted
  · split
    · simp only
      omega
    · split
      · exact hrest
      · split
        · exact hrest
        · split
          · simp only
            split
            · simp only
              omega
            · exact hrest
          · simp

/-- The segments of a row of bytes, in order. Each takes at least one byte, so the scan ends. -/
def byteSegments (qualifier : List UInt8) : List UInt8 → List ByteSegment
  | [] => []
  | b :: rest =>
    let read := firstByteSegment qualifier b rest
    read.1 :: byteSegments qualifier read.2
termination_by bytes => bytes.length
decreasing_by
  have hshorter := firstByteSegment_length qualifier b rest
  simp only [List.length_cons]
  omega

/-! ### The bytes of a character -/

theorem utf8EncodeChar_of_ascii {c : Char} (h : c.toNat < 128) :
    String.utf8EncodeChar c = [c.toUInt8] := by
  have hle : c.val.toNat ≤ 127 := Nat.le_of_lt_succ h
  rw [String.utf8EncodeChar, if_pos hle]
  rfl

/-- Nothing of an ASCII character is lost in its byte. -/
theorem ofUInt8_toUInt8 {c : Char} (h : c.toNat < 128) : Char.ofUInt8 c.toUInt8 = c := by
  apply Char.toNat_inj.1
  change c.val.toNat % 256 = c.val.toNat
  exact Nat.mod_eq_of_lt (Nat.lt_trans h (by decide))

/-- No byte of a character beyond ASCII is an ASCII character. -/
theorem beyond_ascii_of_mem {c : Char} (h : 128 ≤ c.toNat) :
    ∀ b ∈ String.utf8EncodeChar c, 128 ≤ (Char.ofUInt8 b).toNat := by
  have hlead : ¬ c.val.toNat ≤ 127 := Nat.not_le.2 h
  have hcode (n : Nat) : (Char.ofUInt8 (UInt8.ofNat n)).toNat = n % 256 := UInt8.toNat_ofNat'
  rw [String.utf8EncodeChar, if_neg hlead]
  split
  · simp only [List.forall_mem_cons, hcode]
    exact ⟨by omega, by omega, by simp⟩
  · split
    · simp only [List.forall_mem_cons, hcode]
      exact ⟨by omega, by omega, by omega, by simp⟩
    · simp only [List.forall_mem_cons, hcode]
      exact ⟨by omega, by omega, by omega, by omega, by simp⟩

/-- A test that no character beyond ASCII passes. -/
def IsAsciiTest (p : Char → Bool) : Prop :=
  ∀ c, 128 ≤ c.toNat → p c = false

/-- Comparing with an ASCII character is a test that no other character passes. -/
theorem isAsciiTest_beq {d : Char} (h : d.toNat < 128) : IsAsciiTest (· == d) := by
  intro c hc
  rw [beq_eq_false_iff_ne]
  rintro rfl
  omega

/-- Letters, digits and underscores of words are ASCII characters. -/
theorem isAsciiTest_isWordChar : IsAsciiTest isWordChar := by
  intro c hc
  rw [Bool.eq_false_iff]
  intro h
  simp only [isWordChar, Bool.or_eq_true, beq_iff_eq] at h
  rcases h with rfl | halphanum
  · exact absurd hc (by decide)
  · exact Nat.not_le.2 (Text.toNat_lt_of_isAlphanum halphanum) hc

theorem isAsciiTest_isWordStart : IsAsciiTest isWordStart := by
  intro c hc
  rw [Bool.eq_false_iff]
  intro h
  have hword := isWordChar_of_isWordStart h
  rw [isAsciiTest_isWordChar c hc] at hword
  cases hword

theorem isAsciiTest_isDigit : IsAsciiTest Char.isDigit := by
  intro c hc
  rw [Bool.eq_false_iff]
  intro h
  have hword := isWordChar_of_isDigit h
  rw [isAsciiTest_isWordChar c hc] at hword
  cases hword

/-- The bytes of a character: the first one passes a test as the character does, and the others pass
none. -/
structure IsEncoded (c : Char) (b : UInt8) (more : List UInt8) : Prop where
  bytes : String.utf8EncodeChar c = b :: more
  first {p : Char → Bool} (hp : IsAsciiTest p) : ofByte p b = p c
  later {p : Char → Bool} (hp : IsAsciiTest p) : ∀ d ∈ more, ofByte p d = false
  single (h : c.toNat < 128) : more = []

/-- Every character has bytes. For one beyond ASCII all of them are at least 128, so none of them
passes a test. -/
theorem exists_isEncoded (c : Char) : ∃ b more, IsEncoded c b more := by
  by_cases hascii : c.toNat < 128
  · refine ⟨c.toUInt8, [], utf8EncodeChar_of_ascii hascii, fun _ => ?_, fun _ => by simp,
      fun _ => rfl⟩
    rw [ofByte, ofUInt8_toUInt8 hascii]
  · have hbeyond : 128 ≤ c.toNat := Nat.not_lt.1 hascii
    have hbytes := beyond_ascii_of_mem hbeyond
    obtain ⟨b, more, hencode⟩ : ∃ b more, String.utf8EncodeChar c = b :: more := by
      refine List.exists_cons_of_length_pos ?_
      rw [String.length_utf8EncodeChar]
      exact Char.utf8Size_pos c
    rw [hencode] at hbytes
    refine ⟨b, more, hencode, fun hp => ?_, fun hp d hd => ?_, fun h => absurd h hascii⟩
    · rw [hp c hbeyond]
      exact hp _ (hbytes b List.mem_cons_self)
    · exact hp _ (hbytes d (List.mem_cons_of_mem _ hd))

/-! ### The bytes of a text -/

/-- The bytes of a text. -/
def utf8 (cs : List Char) : List UInt8 :=
  cs.flatMap String.utf8EncodeChar

theorem utf8_nil : utf8 [] = [] :=
  rfl

theorem utf8_append (first second : List Char) :
    utf8 (first ++ second) = utf8 first ++ utf8 second :=
  List.flatMap_append

/-- The bytes of a text begin with those of its first character. -/
theorem utf8_cons {c : Char} {b : UInt8} {more : List UInt8} (h : IsEncoded c b more)
    (cs : List Char) : utf8 (c :: cs) = b :: (more ++ utf8 cs) := by
  rw [utf8, List.flatMap_cons, h.bytes]
  rfl

/-- Different texts have different bytes. -/
theorem utf8_injective : Function.Injective utf8 := by
  intro first second h
  have hbytes : (String.ofList first).toByteArray = (String.ofList second).toByteArray := by
    rw [String.toByteArray_ofList, String.toByteArray_ofList]
    exact congrArg List.toByteArray h
  exact String.ofList_injective (String.toByteArray_inj.1 hbytes)

variable {p : Char → Bool}

/-- The characters that pass a test from the beginning on are found in the bytes as in the text. -/
theorem takeWhile_utf8 (hp : IsAsciiTest p) (cs : List Char) :
    (utf8 cs).takeWhile (ofByte p) = utf8 (cs.takeWhile p) ∧
      (utf8 cs).dropWhile (ofByte p) = utf8 (cs.dropWhile p) := by
  induction cs with
  | nil => exact ⟨rfl, rfl⟩
  | cons c rest ih =>
    obtain ⟨b, more, hencoded⟩ := exists_isEncoded c
    by_cases hc : p c
    · have hascii : c.toNat < 128 := by
        by_contra hbeyond
        rw [hp c (Nat.not_lt.1 hbeyond)] at hc
        cases hc
      have hmore := hencoded.single hascii
      have hb : ofByte p b = true := (hencoded.first hp).trans hc
      rw [List.takeWhile_cons_of_pos hc, List.dropWhile_cons_of_pos hc, utf8_cons hencoded,
        utf8_cons hencoded, hmore, List.nil_append, List.takeWhile_cons_of_pos hb,
        List.dropWhile_cons_of_pos hb, ih.1, ih.2]
      exact ⟨rfl, rfl⟩
    · have hb : ¬ ofByte p b = true := by rwa [hencoded.first hp]
      rw [List.takeWhile_cons_of_neg hc, List.dropWhile_cons_of_neg hc, utf8_cons hencoded,
        List.takeWhile_cons_of_neg hb, List.dropWhile_cons_of_neg hb]
      exact ⟨rfl, rfl⟩

/-- The first byte passes a test if the first character does. -/
theorem any_head?_utf8 (hp : IsAsciiTest p) (cs : List Char) :
    (utf8 cs).head?.any (ofByte p) = cs.head?.any p := by
  cases cs with
  | nil => rfl
  | cons c rest =>
    obtain ⟨b, more, hencoded⟩ := exists_isEncoded c
    rw [utf8_cons hencoded]
    exact hencoded.first hp

/-- The text behind a character that passes a test. -/
theorem tail_utf8 (hp : IsAsciiTest p) {cs : List Char} (h : cs.head?.any p) :
    (utf8 cs).take 1 = utf8 (cs.take 1) ∧ (utf8 cs).tail = utf8 cs.tail := by
  cases cs with
  | nil => cases h
  | cons c rest =>
    have hascii : c.toNat < 128 := by
      by_contra hbeyond
      have hc : p c = true := h
      rw [hp c (Nat.not_lt.1 hbeyond)] at hc
      cases hc
    obtain ⟨b, more, hencoded⟩ := exists_isEncoded c
    have hmore := hencoded.single hascii
    have hsingle : utf8 [c] = [b] := by
      rw [utf8_cons hencoded, hmore]
      rfl
    rw [utf8_cons hencoded, hmore]
    exact ⟨hsingle.symm, rfl⟩

/-- A byte that is no quote belongs to the run. -/
theorem quotedBytes_cons {quote : Char} {b : UInt8} (h : ofByte (· == quote) b = false)
    (rest : List UInt8) :
    quotedBytes quote (b :: rest) =
      (b :: (quotedBytes quote rest).1, (quotedBytes quote rest).2) := by
  cases rest with
  | nil => rfl
  | cons d rest => rw [quotedBytes, if_neg (Bool.eq_false_iff.1 h)]

/-- The bytes of another character do not end a run. -/
theorem quotedBytes_append {quote : Char} {bytes : List UInt8}
    (h : ∀ b ∈ bytes, ofByte (· == quote) b = false) (rest : List UInt8) :
    quotedBytes quote (bytes ++ rest) =
      (bytes ++ (quotedBytes quote rest).1, (quotedBytes quote rest).2) := by
  induction bytes with
  | nil => rfl
  | cons b bytes ih =>
    rw [List.cons_append, quotedBytes_cons (h b List.mem_cons_self),
      ih fun d hd => h d (List.mem_cons_of_mem _ hd)]
    rfl

/-- So do all bytes of a character that is not the quote. -/
theorem quotedBytes_utf8_cons {quote c : Char} (h : quote.toNat < 128) (hc : c ≠ quote)
    (cs : List Char) :
    quotedBytes quote (utf8 (c :: cs)) =
      (utf8 [c] ++ (quotedBytes quote (utf8 cs)).1, (quotedBytes quote (utf8 cs)).2) := by
  obtain ⟨b, more, hencoded⟩ := exists_isEncoded c
  have hb : ofByte (· == quote) b = false := by
    rw [hencoded.first (isAsciiTest_beq h)]
    exact beq_eq_false_iff_ne.2 hc
  rw [← List.singleton_append, utf8_append]
  refine quotedBytes_append ?_ _
  rw [utf8_cons hencoded, utf8_nil, List.append_nil]
  exact List.forall_mem_cons.2 ⟨hb, hencoded.later (isAsciiTest_beq h)⟩

/-- A quoted run ends at the same place in the bytes and in the text. The quotes are ASCII
characters, and the run may have any. -/
theorem quotedBytes_utf8 {quote : Char} (h : quote.toNat < 128) (cs : List Char) :
    quotedBytes quote (utf8 cs) = (utf8 (quotedRun quote cs).1, utf8 (quotedRun quote cs).2) := by
  obtain ⟨mark, more, hquote⟩ := exists_isEncoded quote
  obtain rfl := hquote.single h
  have hmark : ofByte (· == quote) mark := by
    rw [hquote.first (isAsciiTest_beq h)]
    exact beq_self_eq_true quote
  fun_induction quotedRun quote cs with
  | case1 => rfl
  | case2 c =>
    by_cases hc : c = quote
    · subst hc
      rw [utf8_cons hquote]
      rfl
    · rw [quotedBytes_utf8_cons h hc]
      simp [utf8, quotedBytes]
  | case3 rest run after hrun ih =>
    rw [hrun] at ih
    rw [utf8_cons hquote, utf8_cons hquote, utf8_cons hquote, utf8_cons hquote]
    simp only [List.nil_append]
    rw [quotedBytes, if_pos hmark, if_pos hmark, ih]
  | case4 d rest hd =>
    obtain ⟨b, more, hencoded⟩ := exists_isEncoded d
    have hb : ¬ ofByte (· == quote) b = true := by
      rw [hencoded.first (isAsciiTest_beq h)]
      simpa using hd
    rw [utf8_cons hquote, utf8_cons hencoded, utf8_cons hquote]
    simp only [List.nil_append]
    rw [quotedBytes, if_pos hmark, if_neg hb]
    rfl
  | case5 c d rest hc run after hrun ih =>
    rw [hrun] at ih
    rw [quotedBytes_utf8_cons h hc, ih, ← utf8_append]
    rfl

/-! ### The segments -/

/-- The bytes of a segment. -/
def Segment.bytes : Segment → ByteSegment
  | verbatim text => .verbatim (utf8 text)
  | field name => .field (utf8 name)
  | placeholder name _ => .placeholder (utf8 name)

/-- The decoder finds the length of the first character. -/
theorem charLength_utf8 (c : Char) (cs : List Char) : charLength (utf8 (c :: cs)) = c.utf8Size := by
  have hdecode : (utf8 (c :: cs)).toByteArray.utf8DecodeChar? 0 = some c :=
    List.utf8DecodeChar?_utf8Encode_cons
  rw [charLength, hdecode]
  rfl

theorem head?_eq_some_iff_any {c : Char} {cs : List Char} :
    cs.head?.any (· == c) ↔ cs.head? = some c := by
  cases cs <;> simp

theorem startsWord_eq_any (cs : List Char) : startsWord cs = cs.head?.any isWordStart := by
  cases cs <;> rfl

/-- The first segment that begins with an ASCII character. -/
theorem firstByteSegment_of_ascii (qualifier before rest : List Char) {c : Char} {b : UInt8}
    (h : IsEncoded c b []) (hascii : c.toNat < 128) :
    firstByteSegment (utf8 qualifier) b (utf8 rest) =
      ((firstSegment qualifier before c rest).1.bytes,
        utf8 (firstSegment qualifier before c rest).2) := by
  -- Every test that the scan makes of a byte has the answer that the same test of a character has.
  have hmark (d : Char) (hd : d.toNat < 128) : ofByte (· == d) b = true ↔ c = d := by
    rw [h.first (isAsciiTest_beq hd), beq_iff_eq]
  have hhead (cs : List Char) (d : Char) (hd : d.toNat < 128) :
      (utf8 cs).head?.any (ofByte (· == d)) = true ↔ cs.head? = some d := by
    rw [any_head?_utf8 (isAsciiTest_beq hd), head?_eq_some_iff_any]
  have hstart (cs : List Char) : (utf8 cs).head?.any (ofByte isWordStart) = startsWord cs := by
    rw [any_head?_utf8 isAsciiTest_isWordStart, startsWord_eq_any]
  have hcons (cs : List Char) : b :: utf8 cs = utf8 (c :: cs) := by
    rw [utf8_cons h, List.nil_append]
  obtain ⟨htake, hdrop⟩ := takeWhile_utf8 isAsciiTest_isWordChar rest
  have hchar : Char.ofUInt8 b = c := by
    have hb := (hmark c hascii).2 rfl
    simpa [ofByte] using hb
  have htail (cs : List Char) (d : Char) (hd : d.toNat < 128) (hcs : cs.head? = some d) :
      (utf8 cs).take 1 = utf8 [d] ∧ (utf8 cs).tail = utf8 cs.tail := by
    obtain ⟨tail, rfl⟩ := List.head?_eq_some_iff.1 hcs
    exact tail_utf8 (isAsciiTest_beq hd) (beq_self_eq_true d)
  have hqualifies (cs : List Char) : ((utf8 cs).head?.any (ofByte (· == '.')) = true ∧
      (utf8 cs).tail.head?.any (ofByte isWordStart) = true) ↔
        cs.head? = some '.' ∧ startsWord cs.tail = true := by
    rw [hhead cs '.' (by decide)]
    refine and_congr_right fun hcs => ?_
    rw [(htail cs '.' (by decide) hcs).2, hstart]
  rw [firstByteSegment, firstSegment]
  simp only [hmark '\x27' (by decide), hmark '\x22' (by decide), hmark ':' (by decide),
    hmark '$' (by decide), hhead rest ':' (by decide), hstart rest, h.first isAsciiTest_isDigit,
    h.first isAsciiTest_isWordStart, htake, hdrop, hcons, utf8_injective.eq_iff, hqualifies, hchar,
    quotedBytes_utf8 hascii]
  split_ifs with hquote hcast hname hnumber hword hfield
  · simp only [Segment.bytes]
  · obtain ⟨hfirst, hrest⟩ := htail rest ':' (by decide) hcast.2
    obtain ⟨htarget, hafter⟩ := takeWhile_utf8 isAsciiTest_isWordChar rest.tail
    rw [hfirst, hrest, htarget, hafter, List.cons_append, ← utf8_append, hcons, hcast.1]
    rfl
  · simp only [Segment.bytes]
  · simp only [Segment.bytes]
  · obtain ⟨-, hrest⟩ := htail _ '.' (by decide) hfield.2.1
    obtain ⟨hname, hafter⟩ := takeWhile_utf8 isAsciiTest_isWordChar
      (rest.dropWhile isWordChar).tail
    rw [hrest, hname, hafter, Segment.bytes]
  · simp only [Segment.bytes]
  · have hsize : c.utf8Size = 1 := by
      rw [← String.length_utf8EncodeChar, h.bytes]
      rfl
    rw [charLength_utf8, hsize, Segment.bytes, utf8_cons h]
    rfl

/-- The first segment that begins with a character beyond ASCII is that character. -/
theorem firstByteSegment_of_beyond_ascii (qualifier before rest : List Char) {c : Char} {b : UInt8}
    {more : List UInt8} (h : IsEncoded c b more) (hbeyond : 128 ≤ c.toNat) :
    firstByteSegment (utf8 qualifier) b (more ++ utf8 rest) =
      ((firstSegment qualifier before c rest).1.bytes,
        utf8 (firstSegment qualifier before c rest).2) := by
  have hfails {p : Char → Bool} (hp : IsAsciiTest p) : ofByte p b = false := by
    rw [h.first hp, hp c hbeyond]
  have hmark (d : Char) (hd : d.toNat < 128) : ofByte (· == d) b = false :=
    hfails (isAsciiTest_beq hd)
  have hother (d : Char) (hd : d.toNat < 128) : c ≠ d := by
    rintro rfl
    omega
  have hsegment : firstSegment qualifier before c rest = (.verbatim [c], rest) := by
    refine reads_iff.1 (.single ?_ (isAsciiTest_isWordChar c hbeyond) (hother '$' (by decide)) ?_)
    · rintro (hc | hc)
      · exact hother '\x27' (by decide) hc
      · exact hother '\x22' (by decide) hc
    · exact fun hc => absurd hc (hother ':' (by decide))
  have hlength : charLength (b :: (more ++ utf8 rest)) - 1 = more.length := by
    rw [← utf8_cons h, charLength_utf8, ← String.length_utf8EncodeChar, h.bytes]
    rfl
  rw [firstByteSegment, hsegment, hlength]
  simp only [hmark '\x27' (by decide), hmark '\x22' (by decide), hmark ':' (by decide),
    hmark '$' (by decide), hfails isAsciiTest_isDigit, hfails isAsciiTest_isWordStart,
    Bool.false_eq_true, or_self, false_and, if_false, List.take_left, List.drop_left]
  rw [Segment.bytes, utf8_cons h, utf8_nil, List.append_nil]

/-- The first segment of the bytes of a text is that of the text, as bytes. Here `b` and `more` are
the bytes of the first character `c`. -/
theorem firstByteSegment_utf8 (qualifier before rest : List Char) {c : Char} {b : UInt8}
    {more : List UInt8} (h : IsEncoded c b more) :
    firstByteSegment (utf8 qualifier) b (more ++ utf8 rest) =
      ((firstSegment qualifier before c rest).1.bytes,
        utf8 (firstSegment qualifier before c rest).2) := by
  by_cases hascii : c.toNat < 128
  · obtain rfl := h.single hascii
    exact firstByteSegment_of_ascii qualifier before rest h hascii
  · exact firstByteSegment_of_beyond_ascii qualifier before rest h (Nat.not_lt.1 hascii)

/-- The segments of the bytes of a text are the bytes of its segments. -/
theorem byteSegments_utf8 (qualifier before cs : List Char) :
    byteSegments (utf8 qualifier) (utf8 cs) =
      (segmentsFrom qualifier before cs).map Segment.bytes := by
  fun_induction segmentsFrom qualifier before cs with
  | case1 => rw [utf8_nil, byteSegments, List.map_nil]
  | case2 before c rest read ih =>
    obtain ⟨b, more, hencoded⟩ := exists_isEncoded c
    rw [utf8_cons hencoded, byteSegments, firstByteSegment_utf8 qualifier before rest hencoded,
      List.map_cons, ← ih]

/-- The bytes of a text are those of its characters. -/
theorem textBytes_eq_utf8 (s : String) : Wire.textBytes s = utf8 s.toList := by
  have hbytes : s.toByteArray = s.toList.utf8Encode := by
    rw [← String.toByteArray_ofList, String.ofList_toList]
  rw [Wire.textBytes, String.toUTF8_eq_toByteArray, hbytes, List.utf8Encode, List.data_toByteArray,
    List.toList_toArray, utf8]

/-- The bytes of a statement fall into the bytes of its segments. -/
theorem byteSegments_textBytes (qualifier text : String) :
    byteSegments (Wire.textBytes qualifier) (Wire.textBytes text) =
      (segments qualifier text).map Segment.bytes := by
  rw [textBytes_eq_utf8, textBytes_eq_utf8]
  exact byteSegments_utf8 _ _ _

end EntityQuery.Sql
