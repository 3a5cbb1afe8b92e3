import EntityQuery.Proofs.Expr.Slots
import EntityQuery.Proofs.Sql.Writing

namespace EntityQuery.Sql

/-- Wherever the text stands, if it does not run into the rest, `written` is written for it. -/
def Renders (entity : EntityMeta) (entityAlias : String) (text written : List Char) : Prop :=
  ∀ table before rest w, Detached text rest →
    (segmentsFrom entityAlias.toList before (text ++ rest)).foldlM
        (Writer.pushSegment ⟨entity, entityAlias, table⟩) w =
      (segmentsFrom entityAlias.toList (text.reverse ++ before) rest).foldlM
        (Writer.pushSegment ⟨entity, entityAlias, table⟩) (w.push (.ofList written))

variable {entity : EntityMeta} {entityAlias : String}

theorem push_push (w : Writer) (first second : List Char) :
    (w.push (.ofList first)).push (.ofList second) = w.push (.ofList (first ++ second)) := by
  simp only [Writer.push, String.append_assoc, String.ofList_append]

theorem push_nil (w : Writer) : w.push (.ofList []) = w := by
  simp [Writer.push]

/-- Two texts that do not run into each other are written one behind the other. -/
theorem Renders.append {first second written more : List Char}
    (h : Renders entity entityAlias first written) (h' : Renders entity entityAlias second more)
    (hdetached : Detached first second) :
    Renders entity entityAlias (first ++ second) (written ++ more) := by
  intro table before rest w hrest
  have hfirst : Detached first (second ++ rest) := by
    cases second with
    | nil => simpa using hrest
    | cons c cs => exact hdetached
  rw [List.append_assoc, h _ _ _ _ hfirst, h' _ _ _ _ hrest.of_append, push_push,
    List.reverse_append, List.append_assoc]

/-- Inert texts are copied. -/
theorem renders_of_inert {text : List Char} (h : text.all isInert) :
    Renders entity entityAlias text text := by
  rw [List.all_eq_true] at h
  -- By length, because the first segment may be a whole word.
  induction hlength : text.length using Nat.strongRecOn generalizing text with
  | ind n ih =>
    intro table before rest w hdetached
    cases text with
    | nil =>
      rw [push_nil]
      rfl
    | cons c cs =>
      obtain ⟨word, after, rfl, hreads⟩ := exists_reads_of_inert entityAlias.toList h
      have hshorter : after.length < n := by
        simp only [List.length_cons, List.length_append] at hlength
        omega
      have hsplit : Detached (c :: word ++ after) rest := hdetached
      have hafter := ih _ hshorter
        (fun d hd => h d (List.mem_cons_of_mem _ (List.mem_append_right _ hd))) rfl table
        ((c :: word).reverse ++ before) rest (w.push (.ofList (c :: word))) hsplit.of_append
      rw [push_push] at hafter
      have htail : (c :: (word ++ after)).reverse ++ before =
          after.reverse ++ ((c :: word).reverse ++ before) := by
        simp
      rw [segmentsFrom_of_reads (hreads before rest hdetached), List.foldlM_cons, htail]
      exact hafter

/-- A field of the alias is written by its column. -/
theorem renders_column {name : String} (halias : Text.isAsciiWord entityAlias)
    (hname : Text.isAsciiWord name) :
    Renders entity entityAlias (entityAlias ++ "." ++ name).toList
      (sqlWord entityAlias ++ "." ++ sqlWord (entity.columnOf name)).toList := by
  intro table before rest w hdetached
  rw [String.toList_append] at hdetached
  rw [segmentsFrom_column halias hname before (hdetached.stopsWord hname), List.foldlM_cons,
    Writer.pushSegment, String.ofList_toList, String.ofList_toList]
  rfl

/-- What is written for a text in any surroundings is written for the text alone. -/
theorem pushText_of_renders {table : ParamTable} {text : String} {written : List Char}
    (h : Renders entity entityAlias text.toList written) (w : Writer) :
    w.pushText ⟨entity, entityAlias, table⟩ text = .ok (w.push (.ofList written)) := by
  have hnone : Detached text.toList [] := by
    intro c _ d hd
    cases hd
  have hall := h table [] [] w hnone
  rw [List.append_nil, segmentsFrom_nil] at hall
  exact hall

/-- A placeholder between two texts is bound between what is written for them. -/
theorem pushText_placeholder {table : ParamTable} {w : Writer} {lead name after : String}
    {written more : List Char} {inList : Bool}
    (hlead : Renders entity entityAlias lead.toList written) (hname : Text.isAsciiWord name)
    (hafter : Renders entity entityAlias after.toList more) (hstop : StopsWord after.toList)
    (hcontext : isListItem lead.toList.reverse after.toList = inList) :
    w.pushText ⟨entity, entityAlias, table⟩ (lead ++ ":" ++ name ++ after) =
      ((w.push (.ofList written)).bind table name inList).map fun bound =>
        bound.2.push (bound.1 ++ .ofList more) := by
  obtain ⟨first, word, hletters, hfirst, hword⟩ := isAsciiWord_iff.1 hname
  have hreads : Reads entityAlias.toList lead.toList.reverse
      (':' :: first :: (word ++ after.toList))
      (.placeholder (first :: word) (isListItem lead.toList.reverse after.toList)) after.toList :=
    .placeholder hfirst hword hstop
  have htext : (lead ++ ":" ++ name ++ after).toList =
      lead.toList ++ ':' :: first :: (word ++ after.toList) := by
    simp [hletters]
  have hcolon : Detached lead.toList (':' :: first :: (word ++ after.toList)) :=
    detached_cons (by decide) (by decide)
  have hnone : Detached after.toList [] := by
    intro c _ d hd
    cases hd
  have hend := hafter table ((':' :: first :: word).reverse ++ lead.toList.reverse) []
  rw [List.append_nil, segmentsFrom_nil] at hend
  have hname : String.ofList (first :: word) = name := by
    rw [← hletters, String.ofList_toList]
  rw [Writer.pushText, segments, htext, hlead table [] _ w hcolon, List.append_nil,
    segmentsFrom_of_reads hreads, hcontext, List.foldlM_cons, Writer.pushSegment, hname]
  cases (w.push (.ofList written)).bind table name inList with
  | error fault => rfl
  | ok bound =>
    refine (hend _ hnone).trans ?_
    simp only [List.foldlM_nil, Writer.push, String.append_assoc]
    rfl

end EntityQuery.Sql
