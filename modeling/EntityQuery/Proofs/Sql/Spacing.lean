import EntityQuery.Proofs.Rows
import EntityQuery.Proofs.Sql.Writing

namespace EntityQuery.Sql

/-- Behind every placeholder of a row of segments stands nothing that would go on with a number. -/
def Spaced (scope : Scope) : List Segment → Prop
  | [] => True
  | .placeholder _ _ :: rest =>
    StopsNumber (rest.flatMap (translatedText scope)) ∧ Spaced scope rest
  | _ :: rest => Spaced scope rest

variable {scope : Scope}

/-- Two rows of segments can stand behind each other if the second begins with no digit. -/
theorem Spaced.append {earlier later : List Segment} (h : Spaced scope earlier)
    (h' : Spaced scope later) (hstop : StopsNumber (later.flatMap (translatedText scope))) :
    Spaced scope (earlier ++ later) := by
  induction earlier with
  | nil => exact h'
  | cons segment rest ih =>
    cases segment with
    | verbatim text => exact ih h
    | field name => exact ih h
    | placeholder name inList =>
      refine ⟨?_, ih h.2⟩
      change StopsNumber ((rest ++ later).flatMap (translatedText scope))
      rw [List.flatMap_append]
      exact forall_head?_append h.1 hstop

/-- No number goes on where a word ends. -/
theorem stopsNumber_translatedText {before cs : List Char} {segments : List Segment}
    (h : ReadsAll scope.entityAlias.toList before cs segments) (hcs : StopsWord cs) :
    StopsNumber (segments.flatMap (translatedText scope)) := by
  cases h with
  | nil before => simp [StopsNumber]
  | @cons _ _ _ _ rest first later =>
    rw [List.flatMap_cons]
    have hverbatim {c : Char} {more after : List Char} (hc : cs = c :: after) :
        StopsNumber (c :: more ++ rest.flatMap (translatedText scope)) := by
      intro d hd
      obtain rfl : c = d := by simpa using hd
      exact stopsNumber_of_stopsWord hcs c (by simp [hc])
    cases first with
    | quoted rest hmark => exact hverbatim rfl
    | cast htarget hstop => exact hverbatim rfl
    | placeholder hfirst hname hstop => exact hverbatim rfl
    | number hfirst hword hstop => exact hverbatim rfl
    | field hstart hword' halias hfirst hname hstop =>
      have hstop := hcs _ rfl
      rw [isWordChar_of_isWordStart hstart] at hstop
      cases hstop
    | word hstart hword' hstop hother => exact hverbatim rfl
    | single hquote hword' hdollar hcolon => exact hverbatim rfl

/-- The segments of one text are spaced, because a placeholder's name ends with its word. -/
theorem spaced_of_readsAll {before cs : List Char} {segments : List Segment}
    (h : ReadsAll scope.entityAlias.toList before cs segments) : Spaced scope segments := by
  induction h with
  | nil before => trivial
  | cons first later ih =>
    cases first with
    | placeholder hfirst hname hstop => exact ⟨stopsNumber_translatedText later hstop, ih⟩
    | _ => exact ih

/-- What was written for the placeholders of a row of segments are rows of references. -/
def WrittenAsLists (written : List (String × String)) (segments : List Segment) : Prop :=
  ∀ name inList, .placeholder name inList ∈ segments →
    ∃ first values, written.lookup (String.ofList name) = some (listText first values)

/-- What is written for a placeholder begins with no digit, as the placeholder itself does. -/
theorem stopsNumber_segmentText {written : List (String × String)} {segments : List Segment}
    (hlists : WrittenAsLists written segments)
    (h : StopsNumber (segments.flatMap (translatedText scope))) :
    StopsNumber (segments.flatMap (segmentText scope written)) := by
  induction segments with
  | nil => exact h
  | cons segment rest ih =>
    have hrest := ih fun name inList hmem => hlists name inList (List.mem_cons_of_mem _ hmem)
    rw [List.flatMap_cons] at h ⊢
    have hcopied (text : List Char)
        (htext : StopsNumber (text ++ rest.flatMap (translatedText scope))) :
        StopsNumber (text ++ rest.flatMap (segmentText scope written)) := by
      cases text with
      | nil => exact hrest htext
      | cons c text => exact htext
    cases segment with
    | verbatim text => exact hcopied _ h
    | field name => exact hcopied _ h
    | placeholder name inList =>
      obtain ⟨first, values, htext⟩ := hlists name inList List.mem_cons_self
      rw [segmentText, htext]
      exact stopsNumber_listText_append _ _ _

end EntityQuery.Sql
