import EntityQuery.Proofs.Sql.Reading
import EntityQuery.Sql.Writer

namespace EntityQuery.Sql

/-- A piece of a text: a character, or a value in the place of a placeholder. -/
inductive Piece
  | char (c : Char)
  | value (v : Value)

/-- Values with commas between them, or the null literal when there are none. -/
def listPieces (values : List Value) : List Piece :=
  if values.isEmpty then "NULL".toList.map .char
  else [.char ',', .char ' '].intercalate (values.map fun v => [.value v])

/-- The parameter that a reference of the given digits stands for. Numbers begin with one, and a
number without a parameter stays as it is written. -/
def referencePieces (params : List Value) (digits : List Char) : List Piece :=
  match Nat.ofDigitChars 10 digits 0 with
  | 0 => ('$' :: digits).map .char
  | n + 1 =>
    match params[n]? with
    | some v => [.value v]
    | none => ('$' :: digits).map .char

/-- A statement's text with the parameters in the places of their references. -/
def readBack (params : List Value) : List Char → List Piece
  | [] => []
  | c :: rest =>
    if c = '$' then
      referencePieces params (rest.takeWhile Char.isDigit) ++
        readBack params (rest.dropWhile Char.isDigit)
    else .char c :: readBack params rest
termination_by cs => cs.length
decreasing_by
  · have hshorter := (List.dropWhile_sublist (l := rest) Char.isDigit).length_le
    simp only [List.length_cons]
    omega
  · simp

/-- A text in front of which a number ends. -/
def StopsNumber (cs : List Char) : Prop :=
  ∀ c ∈ cs.head?, c.isDigit = false

/-- Digits are characters of words, so a number ends where a word does. -/
theorem stopsNumber_of_stopsWord {cs : List Char} (h : StopsWord cs) : StopsNumber cs := by
  intro c hc
  rw [Bool.eq_false_iff]
  intro hdigit
  have hword := h c hc
  rw [isWordChar_of_isDigit hdigit] at hword
  cases hword

theorem readBack_nil (params : List Value) : readBack params [] = [] := by
  rw [readBack]

/-- Text without references is read as it is. -/
theorem readBack_append (params : List Value) {cs : List Char} (h : '$' ∉ cs) (rest : List Char) :
    readBack params (cs ++ rest) = cs.map .char ++ readBack params rest := by
  induction cs with
  | nil => rfl
  | cons c cs ih =>
    have hc : c ≠ '$' := fun hc => h (by simp [hc])
    have hcs : '$' ∉ cs := fun hmem => h (List.mem_cons_of_mem _ hmem)
    rw [List.cons_append, readBack, if_neg hc, ih hcs]
    rfl

/-- A reference is a dollar sign with the number in decimal digits. -/
theorem toList_parameterText (n : Nat) : (parameterText n).toList = '$' :: Nat.toDigits 10 n := by
  simp [parameterText, Nat.toList_repr]

/-- A reference is read back as the parameter of its number. The text behind it begins with no
digit, which would make another number of it. -/
theorem readBack_parameterText {params : List Value} {n : Nat} {v : Value} {rest : List Char}
    (hv : params[n]? = some v) (hrest : StopsNumber rest) :
    readBack params ((parameterText (n + 1)).toList ++ rest) =
      .value v :: readBack params rest := by
  have hdigits : ∀ c ∈ Nat.toDigits 10 (n + 1), c.isDigit := fun c hc =>
    Nat.isDigit_of_mem_toDigits (by decide) (by decide) hc
  rw [toList_parameterText, List.cons_append, readBack, if_pos rfl,
    takeWhile_append_of_stop hdigits hrest, dropWhile_append_of_stop hdigits hrest, referencePieces,
    Nat.ofDigitChars_ten_toDigits]
  simp [hv]

/-- The texts of the references to `count` parameters from number `first` on. -/
def references (first count : Nat) : List (List Char) :=
  (List.range count).map fun i => (parameterText (first + i)).toList

/-- A row of references begins with the first one. -/
theorem references_succ (first count : Nat) :
    references first (count + 1) =
      (parameterText first).toList :: references (first + 1) count := by
  rw [references, List.range_succ_eq_map, List.map_cons, List.map_map, references]
  congr 1
  apply List.map_congr_left
  intro i _
  rw [Function.comp_apply, show first + i.succ = first + 1 + i by omega]

/-- What is written for a list that is not empty is a row of references with commas between them. -/
theorem toList_listText {first : Nat} {values : List Value} (h : values ≠ []) :
    (listText first values).toList = [',', ' '].intercalate (references first values.length) := by
  have hempty : values.isEmpty = false := by simpa using h
  simp [listText, references, hempty, String.toList_intercalate, Function.comp_def]

/-- The text for a row of values begins with a reference or with the null literal. -/
theorem exists_listText_cons (first : Nat) (values : List Value) :
    ∃ c rest, (listText first values).toList = c :: rest ∧ (c = '$' ∨ c = 'N') := by
  cases values with
  | nil => exact ⟨'N', ['U', 'L', 'L'], by simp [listText], Or.inr rfl⟩
  | cons v values =>
    rw [toList_listText (by simp), List.length_cons, references_succ, toList_parameterText]
    cases values with
    | nil => exact ⟨'$', Nat.toDigits 10 first, by simp [references], Or.inl rfl⟩
    | cons next values =>
      rw [List.intercalate_cons_of_ne_nil (by simp [references])]
      exact ⟨'$', _, rfl, Or.inl rfl⟩

/-- A list begins with a dollar sign or with the null literal, so a number ends in front of it. -/
theorem stopsNumber_listText_append (first : Nat) (values : List Value) (rest : List Char) :
    StopsNumber ((listText first values).toList ++ rest) := by
  obtain ⟨c, more, htext, hc⟩ := exists_listText_cons first values
  rw [htext]
  intro d hd
  obtain rfl : c = d := by simpa using hd
  rcases hc with rfl | rfl
  · decide
  · decide

/-- References to parameters that follow one another are read as these parameters. -/
theorem readBack_references {params : List Value} {first : Nat} {v : Value} {values : List Value}
    {rest : List Char} (h : v :: values <+: params.drop first) (hrest : StopsNumber rest) :
    readBack params
        ([',', ' '].intercalate (references (first + 1) (values.length + 1)) ++ rest) =
      [.char ',', .char ' '].intercalate ((v :: values).map fun v => [.value v]) ++
        readBack params rest := by
  have hv : params[first]? = some v := by
    obtain ⟨more, hmore⟩ := h
    rw [← List.head?_drop, ← hmore]
    rfl
  induction values generalizing v first with
  | nil =>
    have hread := readBack_parameterText hv hrest
    simpa [references] using hread
  | cons next values ih =>
    obtain ⟨more, hmore⟩ := h
    have htail : next :: values ++ more = params.drop (first + 1) := by
      rw [← List.tail_drop, ← hmore]
      rfl
    have hnext : params[first + 1]? = some next := by
      rw [← List.head?_drop, ← htail]
      rfl
    -- The comma ends the number, so the first reference is read on its own.
    have hcomma : StopsNumber (',' :: ' ' ::
        ([',', ' '].intercalate (references (first + 1 + 1) (values.length + 1)) ++ rest)) := by
      intro c hc
      obtain rfl : ',' = c := by simpa using hc
      decide
    have hsep : '$' ∉ [',', ' '] := by decide
    have hfirst := readBack_parameterText hv hcomma
    have hmiddle := readBack_append params hsep
      ([',', ' '].intercalate (references (first + 1 + 1) (values.length + 1)) ++ rest)
    have hlater := ih ⟨more, htail⟩ hnext
    rw [List.length_cons, references_succ, List.intercalate_cons_of_ne_nil (by simp [references]),
      List.map_cons, List.intercalate_cons_of_ne_nil (by simp)]
    simp only [List.append_assoc, List.cons_append, List.nil_append, List.map_cons,
      List.map_nil] at hfirst hmiddle hlater ⊢
    rw [hfirst, hmiddle, hlater]

/-- The text for a row of values is read as the row, with commas between the values. -/
theorem readBack_listText {params values : List Value} {first : Nat} {rest : List Char}
    (h : values <+: params.drop first) (hrest : StopsNumber rest) :
    readBack params ((listText (first + 1) values).toList ++ rest) =
      listPieces values ++ readBack params rest := by
  cases values with
  | nil =>
    have hnull : '$' ∉ "NULL".toList := by decide
    exact readBack_append params hnull rest
  | cons v values =>
    rw [toList_listText (by simp), List.length_cons, readBack_references h hrest]
    rfl

end EntityQuery.Sql
