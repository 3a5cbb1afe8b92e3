import EntityQuery.Proofs.Sql.Scan
import EntityQuery.Proofs.Sql.Writing

namespace EntityQuery.Sql

/-- The parameters that a placeholder adds when its name occurs for the first time. -/
def slotValues (table : ParamTable) (slot : String × Bool) : List Value :=
  ((table.value? slot.1).map (Value.parameters slot.2)).getD []

variable {scope : Scope}

/-- A placeholder of a new name adds the parameters of its value. -/
theorem pushSegment_new {name : List Char} {inList : Bool} {before after : Writer}
    (hnew : before.written.lookup (String.ofList name) = none)
    (h : before.pushSegment scope (.placeholder name inList) = .ok after) :
    after.params = before.params ++ slotValues scope.table (String.ofList name, inList) ∧
      ∀ other, other ≠ String.ofList name →
        after.written.lookup other = before.written.lookup other := by
  cases pushed_of_pushSegment h with
  | copied hplain => exact absurd rfl (hplain name inList)
  | known hwritten =>
    rw [hnew] at hwritten
    cases hwritten
  | new hfirst hvalue =>
    refine ⟨?_, fun other hother => ?_⟩
    · simp only [slotValues, hvalue, Option.map_some, Option.getD_some]
    · simp only [List.lookup_cons, beq_eq_false_iff_ne.2 hother]

/-- A row of segments whose placeholders are all new and different adds the parameters of each of
them. -/
theorem params_of_foldlM {segments : List Segment} {before after : Writer}
    (h : segments.foldlM (Writer.pushSegment scope) before = .ok after)
    (hnodup : ((placeholders segments).map Prod.fst).Nodup)
    (hnew : ∀ slot ∈ placeholders segments, before.written.lookup slot.1 = none) :
    after.params = before.params ++ (placeholders segments).flatMap (slotValues scope.table) := by
  induction segments generalizing before with
  | nil =>
    cases h
    exact (List.append_nil _).symm
  | cons segment rest ih =>
    obtain ⟨next, hstep, hrest⟩ := foldlM_cons_eq_ok h
    cases segment with
    | verbatim text =>
      cases hstep
      have hadded := ih hrest hnodup hnew
      exact hadded
    | field name =>
      cases hstep
      have hadded := ih hrest hnodup hnew
      exact hadded
    | placeholder name inList =>
      have hcons : placeholders (.placeholder name inList :: rest) =
          (String.ofList name, inList) :: placeholders rest := rfl
      rw [hcons, List.map_cons, List.nodup_cons] at hnodup
      rw [hcons] at hnew
      obtain ⟨hparams, hwritten⟩ := pushSegment_new (hnew _ List.mem_cons_self) hstep
      have hadded := ih hrest hnodup.2 fun slot hslot => by
        -- A later placeholder has another name, so nothing is written for it yet.
        have hne : slot.1 ≠ String.ofList name := by
          intro heq
          exact hnodup.1 (List.mem_map.2 ⟨slot, hslot, heq⟩)
        rw [hwritten _ hne]
        exact hnew slot (List.mem_cons_of_mem _ hslot)
      rw [hadded, hparams, hcons, List.flatMap_cons, List.append_assoc]

end EntityQuery.Sql
