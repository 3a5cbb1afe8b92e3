import EntityQuery.Proofs.Sql.Spacing

namespace EntityQuery

/-! ### Rows without repetitions -/

/-- What has occurred before is erased. -/
theorem eraseDups_append_of_subset {α : Type} [BEq α] [LawfulBEq α] {first second : List α}
    (h : second ⊆ first) : (first ++ second).eraseDups = first.eraseDups := by
  have hnone : second.removeAll first = [] := by
    rw [List.removeAll, List.filter_eq_nil_iff]
    intro x hx
    simpa using h hx
  rw [List.eraseDups_append, hnone, List.eraseDups_nil, List.append_nil]

/-- Where nothing occurs twice, nothing is erased. -/
theorem eraseDups_of_nodup {α : Type} [BEq α] [LawfulBEq α] {row : List α} (h : row.Nodup) :
    row.eraseDups = row := by
  induction row with
  | nil => rfl
  | cons x rest ih =>
    obtain ⟨hx, hrest⟩ := List.nodup_cons.1 h
    have hfilter : rest.filter (fun y => !y == x) = rest := by
      rw [List.filter_eq_self]
      intro y hy
      have hne : y ≠ x := fun heq => hx (heq ▸ hy)
      simpa using hne
    rw [List.eraseDups_cons, hfilter, ih hrest]

/-- What is new, and new only once, is kept behind the others. -/
theorem eraseDups_append_of_disjoint {α : Type} [BEq α] [LawfulBEq α] {first second : List α}
    (hdisjoint : ∀ x ∈ second, x ∉ first) (hnodup : second.Nodup) :
    (first ++ second).eraseDups = first.eraseDups ++ second := by
  have hall : second.removeAll first = second := by
    rw [List.removeAll, List.filter_eq_self]
    intro x hx
    simpa using hdisjoint x hx
  rw [List.eraseDups_append, hall, eraseDups_of_nodup hnodup]

namespace Sql

/-! ### The numbers in a text -/

/-- The numbers of the references in a text, from left to right. -/
def referenceNumbers : List Char → List Nat
  | [] => []
  | c :: rest =>
    if c = '$' then
      Nat.ofDigitChars 10 (rest.takeWhile Char.isDigit) 0 ::
        referenceNumbers (rest.dropWhile Char.isDigit)
    else referenceNumbers rest
termination_by cs => cs.length
decreasing_by
  · have hshorter := (List.dropWhile_sublist (l := rest) Char.isDigit).length_le
    simp only [List.length_cons]
    omega
  · simp

theorem referenceNumbers_nil : referenceNumbers [] = [] := by
  rw [referenceNumbers]

/-- A text without dollar signs has no references. -/
theorem referenceNumbers_append {cs : List Char} (h : '$' ∉ cs) (rest : List Char) :
    referenceNumbers (cs ++ rest) = referenceNumbers rest := by
  induction cs with
  | nil => rfl
  | cons c cs ih =>
    have hc : c ≠ '$' := fun hc => h (by simp [hc])
    rw [List.cons_append, referenceNumbers, if_neg hc,
      ih fun hmem => h (List.mem_cons_of_mem _ hmem)]

theorem referenceNumbers_of_not_mem {cs : List Char} (h : '$' ∉ cs) : referenceNumbers cs = [] := by
  have happend := referenceNumbers_append h []
  rwa [List.append_nil, referenceNumbers_nil] at happend

/-- A written reference has its number, as long as no digit follows that would continue it. -/
theorem referenceNumbers_parameterText (n : Nat) {rest : List Char} (hrest : StopsNumber rest) :
    referenceNumbers ((parameterText n).toList ++ rest) = n :: referenceNumbers rest := by
  have hdigits : ∀ c ∈ Nat.toDigits 10 n, c.isDigit := fun c hc =>
    Nat.isDigit_of_mem_toDigits (by decide) (by decide) hc
  rw [toList_parameterText, List.cons_append, referenceNumbers, if_pos rfl,
    takeWhile_append_of_stop hdigits hrest, dropWhile_append_of_stop hdigits hrest,
    Nat.ofDigitChars_ten_toDigits]

/-- References to parameters that follow one another have numbers that follow one another. -/
theorem referenceNumbers_references (first count : Nat) {rest : List Char}
    (hrest : StopsNumber rest) :
    referenceNumbers ([',', ' '].intercalate (references first (count + 1)) ++ rest) =
      List.range' first (count + 1) ++ referenceNumbers rest := by
  induction count generalizing first with
  | zero =>
    have hone := referenceNumbers_parameterText first hrest
    simpa [references] using hone
  | succ count ih =>
    have hcomma : StopsNumber ([',', ' '] ++
        ([',', ' '].intercalate (references (first + 1) (count + 1)) ++ rest)) := by
      intro c hc
      obtain rfl : ',' = c := by simpa using hc
      decide
    have hsep : '$' ∉ [',', ' '] := by decide
    rw [references_succ, List.intercalate_cons_of_ne_nil (by simp [references]), List.append_assoc,
      List.append_assoc, referenceNumbers_parameterText first hcomma, referenceNumbers_append hsep,
      ih, ← List.cons_append, ← List.range'_succ]

/-- A written list has the numbers of its values in a row. -/
theorem referenceNumbers_listText (first : Nat) (values : List Value) {rest : List Char}
    (hrest : StopsNumber rest) :
    referenceNumbers ((listText first values).toList ++ rest) =
      List.range' first values.length ++ referenceNumbers rest := by
  cases values with
  | nil =>
    have hnull : '$' ∉ "NULL".toList := by decide
    exact referenceNumbers_append hnull rest
  | cons v values =>
    rw [toList_listText (by simp), List.length_cons, referenceNumbers_references _ _ hrest]

theorem referenceNumbers_toList_listText (first : Nat) (values : List Value) :
    referenceNumbers (listText first values).toList = List.range' first values.length := by
  have hnil : StopsNumber [] := by simp [StopsNumber]
  have happend := referenceNumbers_listText first values hnil
  rwa [List.append_nil, referenceNumbers_nil, List.append_nil] at happend

/-! ### The numbers in a written text -/

variable {scope : Scope}

/-- The numbers of the references in a written text are those of its segments, one after the
other. -/
theorem referenceNumbers_flatMap {written : List (String × String)} {segments : List Segment}
    (hlists : WrittenAsLists written segments) (hspaced : Spaced scope segments)
    (hdollar : '$' ∉ segments.flatMap (translatedText scope)) :
    referenceNumbers (segments.flatMap (segmentText scope written)) =
      segments.flatMap fun segment => referenceNumbers (segmentText scope written segment) := by
  induction segments with
  | nil => exact referenceNumbers_nil
  | cons segment rest ih =>
    have hlater : WrittenAsLists written rest := fun name inList hmem =>
      hlists name inList (List.mem_cons_of_mem _ hmem)
    rw [List.flatMap_cons, List.mem_append, not_or] at hdollar
    rw [List.flatMap_cons, List.flatMap_cons]
    have hcopied (text : List Char) (htext : '$' ∉ text) (hrest : Spaced scope rest) :
        referenceNumbers (text ++ rest.flatMap (segmentText scope written)) =
          referenceNumbers text ++
            rest.flatMap fun segment => referenceNumbers (segmentText scope written segment) := by
      rw [referenceNumbers_append htext, referenceNumbers_of_not_mem htext, List.nil_append,
        ih hlater hrest hdollar.2]
    cases segment with
    | verbatim text => exact hcopied _ hdollar.1 hspaced
    | field name => exact hcopied _ hdollar.1 hspaced
    | placeholder name inList =>
      obtain ⟨hstop, hrest⟩ := hspaced
      obtain ⟨first, values, htext⟩ := hlists name inList List.mem_cons_self
      rw [segmentText, htext, Option.getD_some,
        referenceNumbers_listText _ _ (stopsNumber_segmentText hlater hstop),
        referenceNumbers_toList_listText, ih hlater hrest hdollar.2]

/-! ### The order of first use -/

/-- What was written for names are rows of references to parameters that there are. -/
def Writer.Numbered (w : Writer) : Prop :=
  ∀ name text, w.written.lookup name = some text →
    ∃ first values, text = listText (first + 1) values ∧ first + values.length ≤ w.params.length

/-- A new name is numbered behind all earlier ones, and a known one is written as before, so the
numbers in the order of their first use stay the numbers of the parameters. -/
theorem numbered_of_pushSegment {segment : Segment} {before after : Writer} {seen : List Nat}
    (h : before.pushSegment scope segment = .ok after)
    (hdollar : '$' ∉ translatedText scope segment) (hbefore : before.Numbered)
    (hseen : seen.eraseDups = List.range' 1 before.params.length) :
    after.Numbered ∧
      (seen ++ referenceNumbers (segmentText scope after.written segment)).eraseDups =
        List.range' 1 after.params.length := by
  -- All numbers up to the last parameter were seen, and no others.
  have hmem (number : Nat) : number ∈ seen ↔ 1 ≤ number ∧ number < 1 + before.params.length := by
    rw [← List.mem_eraseDups, hseen, List.mem_range'_1]
  have hcopied (text : List Char) (htext : '$' ∉ text) :
      (seen ++ referenceNumbers text).eraseDups = List.range' 1 before.params.length := by
    rw [referenceNumbers_of_not_mem htext, List.append_nil, hseen]
  cases pushed_of_pushSegment h with
  | copied hplain =>
    refine ⟨hbefore, ?_⟩
    cases segment with
    | placeholder name inList => exact absurd rfl (hplain name inList)
    | _ => exact hcopied _ hdollar
  | @known name inList text hwritten =>
    obtain ⟨first, values, rfl, hbound⟩ := hbefore _ _ hwritten
    -- The numbers of a known name stand in front already, and nothing new is seen.
    have hknown : List.range' (first + 1) values.length ⊆ seen := by
      intro number hnumber
      rw [List.mem_range'_1] at hnumber
      rw [hmem]
      omega
    refine ⟨hbefore, ?_⟩
    rw [segmentText, Writer.push, hwritten, Option.getD_some, referenceNumbers_toList_listText,
      eraseDups_append_of_subset hknown, hseen]
  | @new name inList value hnew hvalue =>
    -- Those of a new name are behind the last parameter, so all of them are new.
    have hlater : ∀ number ∈ List.range' (before.params.length + 1)
        (value.parameters inList).length, number ∉ seen := by
      intro number hnumber
      rw [List.mem_range'_1] at hnumber
      rw [hmem]
      omega
    refine ⟨fun other text hother => ?_, ?_⟩
    · by_cases hname : other = String.ofList name
      · subst hname
        rw [List.lookup_cons_self, Option.some.injEq] at hother
        exact ⟨_, _, hother.symm, by simp⟩
      · rw [List.lookup_cons, beq_eq_false_iff_ne.2 hname] at hother
        obtain ⟨first, values, htext, hbound⟩ := hbefore _ _ hother
        refine ⟨first, values, htext, ?_⟩
        rw [List.length_append]
        omega
    · rw [segmentText, List.lookup_cons_self, Option.getD_some, referenceNumbers_toList_listText,
        eraseDups_append_of_disjoint hlater List.nodup_range', hseen, List.length_append,
        ← List.range'_append_1, Nat.add_comm 1]

/-- A row of segments keeps the numbers in the order of their first use. -/
theorem numbered_of_foldlM {segments : List Segment} {before after : Writer} {seen : List Nat}
    (h : segments.foldlM (Writer.pushSegment scope) before = .ok after)
    (hdollar : '$' ∉ segments.flatMap (translatedText scope)) (hbefore : before.Numbered)
    (hseen : seen.eraseDups = List.range' 1 before.params.length) :
    after.Numbered ∧
      (seen ++ segments.flatMap fun segment =>
        referenceNumbers (segmentText scope after.written segment)).eraseDups =
        List.range' 1 after.params.length := by
  induction segments generalizing before seen with
  | nil =>
    cases h
    exact ⟨hbefore, by simpa using hseen⟩
  | cons segment rest ih =>
    obtain ⟨next, hstep, hrest⟩ := foldlM_cons_eq_ok h
    rw [List.flatMap_cons, List.mem_append, not_or] at hdollar
    obtain ⟨hnext, hfirst⟩ := numbered_of_pushSegment hstep hdollar.1 hbefore hseen
    have htext := (wrote_of_pushSegment hstep).segmentText_eq (wrote_of_foldlM hrest).kept segment
      List.mem_cons_self
    have hlater := ih hrest hdollar.2 hnext hfirst
    rwa [htext, List.append_assoc] at hlater

/-- The references in a written text, in the order of their first use, are those of its parameters,
one after the other. -/
theorem eraseDups_referenceNumbers {segments : List Segment} {w : Writer}
    (h : segments.foldlM (Writer.pushSegment scope) {} = .ok w) (hspaced : Spaced scope segments)
    (hdollar : '$' ∉ segments.flatMap (translatedText scope)) :
    (referenceNumbers w.sql.toList).eraseDups = List.range' 1 w.params.length := by
  have hwrote := wrote_of_foldlM h
  have hempty : Writer.Numbered {} := fun _ _ hlookup => by cases hlookup
  obtain ⟨hnumbered, hnumbers⟩ := numbered_of_foldlM h hdollar hempty List.eraseDups_nil
  have hlists : WrittenAsLists w.written segments := by
    intro name inList hmem
    obtain ⟨text, htext⟩ := hwrote.placeholders name inList hmem
    obtain ⟨first, values, rfl, -⟩ := hnumbered _ _ htext
    exact ⟨first + 1, values, htext⟩
  have hsql : w.sql.toList = segments.flatMap (segmentText scope w.written) := by
    simpa using hwrote.sql
  rw [hsql, referenceNumbers_flatMap hlists hspaced hdollar]
  exact hnumbers

/-- Every parameter is one that the value of some placeholder takes up in its context. -/
theorem mem_params_of_foldlM {segments : List Segment} {before after : Writer} {v : Value}
    (h : segments.foldlM (Writer.pushSegment scope) before = .ok after) (hv : v ∈ after.params) :
    v ∈ before.params ∨ ∃ name inList value, .placeholder name inList ∈ segments ∧
      scope.table.value? (String.ofList name) = some value ∧ v ∈ value.parameters inList := by
  induction segments generalizing before with
  | nil =>
    cases h
    exact Or.inl hv
  | cons segment rest ih =>
    obtain ⟨next, hstep, hrest⟩ := foldlM_cons_eq_ok h
    rcases ih hrest with hv | ⟨name, inList, value, hmem, hvalue, hv⟩
    · cases pushed_of_pushSegment hstep with
      | copied hplain => exact Or.inl hv
      | known hwritten => exact Or.inl hv
      | new hnew hvalue =>
        rcases List.mem_append.1 hv with hv | hv
        · exact Or.inl hv
        · exact Or.inr ⟨_, _, _, List.mem_cons_self, hvalue, hv⟩
    · exact Or.inr ⟨name, inList, value, List.mem_cons_of_mem _ hmem, hvalue, hv⟩

end Sql

end EntityQuery
