import EntityQuery.Derive.TypeText
import Mathlib.Data.List.Basic

namespace EntityQuery.Derive

variable {kind : TokenKind} {tokens type inner arg : List Token}

/-! ### Parts are shorter -/

/-- A split loses the token at which it is made. -/
theorem length_of_splitAt? {d : Depth} {before after : List Token}
    (h : splitAt? kind d tokens = some (before, after)) :
    before.length + after.length < tokens.length := by
  induction tokens generalizing d before with
  | nil => cases h
  | cons t rest ih =>
    rw [splitAt?] at h
    split at h
    · cases h
      simp
    · obtain ⟨⟨before', after'⟩, hrest, heq⟩ := Option.map_eq_some_iff.1 h
      cases heq
      have hshorter := ih hrest
      simp only [List.length_cons]
      omega

/-- No piece between commas is longer than all tokens. -/
theorem length_le_of_mem_splitCommas {d : Depth} {read piece : List Token} {hasComma : Bool}
    (h : (piece, hasComma) ∈ splitCommas d read tokens) :
    piece.length ≤ read.length + tokens.length := by
  induction tokens generalizing d read with
  | nil =>
    rw [splitCommas] at h
    split at h
    · cases h
    · cases List.mem_singleton.1 h
      simp
  | cons t rest ih =>
    rw [splitCommas] at h
    split at h
    · rcases List.mem_cons.1 h with heq | hlater
      · cases heq
        simp only [List.length_reverse]
        omega
      · have hle := ih hlater
        simp only [List.length_nil, List.length_cons] at hle ⊢
        omega
    · have hle := ih h
      simp only [List.length_cons] at hle ⊢
      omega

theorem length_le_of_mem_commaPieces {piece : List Token} (h : piece ∈ commaPieces tokens) :
    piece.length ≤ tokens.length := by
  obtain ⟨⟨_, hasComma⟩, hmem, rfl⟩ := List.mem_map.1 h
  have hle := length_le_of_mem_splitCommas hmem
  simpa using hle

/-- What stands in angle brackets, and what stands behind them, is shorter than both together. The
recursion into types ends because of this. -/
theorem length_of_angleArgs? {args : List (List Token)} {after : List Token}
    (h : angleArgs? tokens = some (args, after)) :
    after.length < tokens.length ∧ ∀ arg ∈ args, arg.length < tokens.length := by
  obtain ⟨⟨inside, behind⟩, hsplit, heq⟩ := Option.map_eq_some_iff.1 h
  cases heq
  have hlength := length_of_splitAt? hsplit
  refine ⟨by omega, fun arg harg => ?_⟩
  have hle := length_le_of_mem_commaPieces harg
  omega

/-- The arguments of a segment are shorter than the tokens. -/
def Segment.ArgsWithin (segment : Segment) (tokens : List Token) : Prop :=
  ∀ args, segment.args? = some args → ∀ arg ∈ args, arg.length < tokens.length

theorem Segment.ArgsWithin.mono {segment : Segment} {more : List Token}
    (h : segment.ArgsWithin tokens) (hmore : tokens.length ≤ more.length) :
    segment.ArgsWithin more :=
  fun args hargs arg harg => Nat.lt_of_lt_of_le (h args hargs arg harg) hmore

/-- The arguments of a segment with angle brackets are within them. -/
theorem argsWithin_angle {name : String} {segment : Segment} {after : List Token}
    (h : (angleArgs? tokens).map (fun found => (Segment.mk name (some found.1), found.2)) =
      some (segment, after)) :
    after.length < tokens.length ∧ segment.ArgsWithin tokens := by
  obtain ⟨⟨args, behind⟩, hargs, heq⟩ := Option.map_eq_some_iff.1 h
  cases heq
  obtain ⟨hafter, hshorter⟩ := length_of_angleArgs? hargs
  refine ⟨hafter, fun args' heq => ?_⟩
  cases heq
  exact hshorter

theorem argsWithin_none {name : String} (tokens : List Token) :
    (Segment.mk name none).ArgsWithin tokens :=
  nofun

/-- A segment and what stands behind it are parts of the path. -/
theorem argsWithin_segment? {segment : Segment} {after : List Token}
    (h : segment? tokens = some (segment, after)) :
    after.length < tokens.length ∧ segment.ArgsWithin tokens := by
  unfold segment? at h
  split at h
  · rename_i name rest
    simp only at h
    split at h
    · obtain ⟨hafter, hargs⟩ := argsWithin_angle h
      simp only [List.length_cons]
      exact ⟨by omega, hargs.mono (by simp only [List.length_cons]; omega)⟩
    · obtain ⟨hafter, hargs⟩ := argsWithin_angle h
      simp only [List.length_cons]
      exact ⟨by omega, hargs.mono (by simp only [List.length_cons]; omega)⟩
    · obtain ⟨⟨inside, behind⟩, hsplit, heq⟩ := Option.map_eq_some_iff.1 h
      have hlength := length_of_splitAt? hsplit
      simp only at heq
      split at heq
      · cases heq
        exact ⟨by simp, argsWithin_none _⟩
      · cases heq
        exact ⟨by simp only [List.length_cons]; omega, argsWithin_none _⟩
    · cases h
      exact ⟨by simp, argsWithin_none _⟩
  · cases h

/-- The arguments of the last segment are shorter than the path, at whatever depth the segment
stands. -/
theorem argsWithin_lastSegmentOf? {segment : Segment}
    (h : lastSegmentOf? tokens = some segment) : segment.ArgsWithin tokens := by
  induction hlength : tokens.length using Nat.strongRecOn generalizing tokens with
  | ind n ih =>
    rw [lastSegmentOf?] at h
    split at h
    · rename_i found hfound
      cases h
      exact (argsWithin_segment? hfound).2
    · rename_i rest hfound
      split at h
      · rename_i hshorter
        exact (ih _ (hlength ▸ hshorter) h rfl).mono (Nat.le_of_lt hshorter)
      · cases h
    · cases h

theorem argsWithin_lastSegment? {segment : Segment} (h : lastSegment? type = some segment) :
    segment.ArgsWithin type := by
  unfold lastSegment? at h
  split at h
  · exact (argsWithin_lastSegmentOf? h).mono (by simp only [List.length_cons]; omega)
  · split at h
    · rename_i hsplit
      have hlength := length_of_splitAt? hsplit
      exact (argsWithin_lastSegmentOf? h).mono (by simp only [List.length_cons] at hlength ⊢; omega)
    · cases h
  · exact argsWithin_lastSegmentOf? h

/-! ### Options and references -/

/-- The type is an option of another type: a path to `Option` with one argument, which is a type. -/
structure IsOptionOf (type arg : List Token) : Prop where
  path : lastSegment? type = some ⟨"Option", some [arg]⟩
  isType : isTypeArg arg

/-- The derivation takes a type for an option exactly if it is one. -/
theorem optionInner?_eq_some_iff : optionInner? type = some arg ↔ IsOptionOf type arg := by
  unfold optionInner?
  constructor
  · intro h
    split at h
    · rename_i found hpath
      split at h
      · rename_i htype
        cases h
        exact ⟨hpath, htype⟩
      · cases h
    · cases h
  · rintro ⟨hpath, htype⟩
    rw [hpath]
    exact if_pos htype

/-- The values of the type mean what those of another type mean. -/
inductive LooksThrough (type inner : List Token) : Prop
  | option (h : IsOptionOf type inner)
  | reference (h : referenced? type = some inner)

/-- The type behind a reference is shorter by its mark at least. -/
theorem length_of_referenced? (h : referenced? type = some inner) :
    inner.length < type.length := by
  unfold referenced? at h
  split at h
  · rename_i rest
    simp only at h
    split at h
    · rename_i hmut
      cases h
      split at hmut
      · subst hmut
        simp only [List.length_cons]
        omega
      · subst hmut
        simp only [List.length_cons]
        omega
    · cases h
      split
      · simp only [List.length_cons]
        omega
      · simp
  · cases h

/-- A reference is no path. -/
theorem lastSegment?_of_referenced? (h : referenced? type = some inner) :
    lastSegment? type = none := by
  unfold referenced? at h
  split at h
  · rw [lastSegment?]
    · rw [lastSegmentOf?]
      rfl
    · simp
    · simp
  · cases h

/-- A type that is neither an option nor a reference ends the way to the meaning. -/
theorem not_looksThrough (hoption : optionInner? type = none) (href : referenced? type = none)
    (inner : List Token) : ¬ LooksThrough type inner := by
  intro hthrough
  cases hthrough with
  | option h =>
    rw [optionInner?_eq_some_iff.2 h] at hoption
    cases hoption
  | reference h =>
    rw [h] at href
    cases href

/-- Every step on the way to the meaning leads to a shorter type, so the way has an end. -/
theorem length_of_looksThrough (h : LooksThrough type inner) : inner.length < type.length := by
  cases h with
  | option h => exact argsWithin_lastSegment? h.path _ rfl _ List.mem_cons_self
  | reference h => exact length_of_referenced? h

/-- A type leads to one other type at most, since no option is a reference. -/
theorem LooksThrough.unique {other : List Token} (h : LooksThrough type inner)
    (h' : LooksThrough type other) : other = inner := by
  cases h with
  | option h =>
    cases h' with
    | option h' =>
      have hinner := optionInner?_eq_some_iff.2 h'
      rw [optionInner?_eq_some_iff.2 h] at hinner
      exact (Option.some.inj hinner).symm
    | reference h' =>
      have hpath := h.path
      rw [lastSegment?_of_referenced? h'] at hpath
      cases hpath
  | reference h =>
    cases h' with
    | option h' =>
      have hpath := h'.path
      rw [lastSegment?_of_referenced? h] at hpath
      cases hpath
    | reference h' => exact Option.some.inj (h'.symm.trans h)

/-- What the last name of a path says about the values of the type. -/
def pathMeaning (type : List Token) : FieldType :=
  match lastSegment? type with
  | some segment => (namedTypes.lookup segment.name).getD .other
  | none => .other

/-- What the values of a type mean: what those of the type behind an option or a reference mean, and
at the end what the path says. -/
inductive Means : List Token → FieldType → Prop
  | behind {type inner : List Token} {meaning : FieldType} (h : LooksThrough type inner)
      (hinner : Means inner meaning) : Means type meaning
  | path {type : List Token} (hend : ∀ inner, ¬ LooksThrough type inner) :
      Means type (pathMeaning type)

/-- A type has one meaning only. -/
theorem Means.unique {meaning meaning' : FieldType} (h : Means type meaning)
    (h' : Means type meaning') : meaning' = meaning := by
  induction h with
  | behind hthrough _ ih =>
    cases h' with
    | behind hthrough' hinner' =>
      obtain rfl := hthrough.unique hthrough'
      exact ih hinner'
    | path hend => exact absurd hthrough (hend _)
  | path hend =>
    cases h' with
    | behind hthrough' => exact absurd hthrough' (hend _)
    | path => rfl

/-- Every type has a meaning, because the types behind it are shorter. -/
theorem exists_means (type : List Token) : ∃ meaning, Means type meaning := by
  induction hlength : type.length using Nat.strongRecOn generalizing type with
  | ind n ih =>
    by_cases hend : ∃ inner, LooksThrough type inner
    · obtain ⟨inner, hthrough⟩ := hend
      obtain ⟨meaning, hinner⟩ := ih _ (hlength ▸ length_of_looksThrough hthrough) inner rfl
      exact ⟨meaning, .behind hthrough hinner⟩
    · exact ⟨_, .path fun inner hthrough => hend ⟨inner, hthrough⟩⟩

/-- On the way to the meaning there is an option of an option. -/
inductive NestsOption : List Token → Prop
  | here {type inner arg : List Token} (h : IsOptionOf type inner) (hinner : IsOptionOf inner arg) :
      NestsOption type
  | behind {type inner : List Token} (h : LooksThrough type inner) (hinner : NestsOption inner) :
      NestsOption type

/-! ### What is inferred -/

/-- No reference is an option, since it begins with a mark. -/
theorem optionInner?_of_referenced? (h : referenced? type = some inner) :
    optionInner? type = none := by
  rw [optionInner?, lastSegment?_of_referenced? h]

theorem referenced?_of_isOptionOf (h : IsOptionOf type inner) : referenced? type = none := by
  cases href : referenced? type with
  | none => rfl
  | some target =>
    have hpath := h.path
    rw [lastSegment?_of_referenced? href] at hpath
    cases hpath

theorem inferType_of_reference (h : referenced? type = some inner) :
    inferType type = inferType inner := by
  rw [inferType, optionInner?_of_referenced? h]
  simp only [Option.getD_none, h]
  exact if_pos (length_of_referenced? h)

/-- The derivation takes one option off, and goes on behind a reference inside. -/
theorem inferType_of_option_of_reference {target : List Token} (h : IsOptionOf type inner)
    (hinner : referenced? inner = some target) : inferType type = inferType target := by
  have hshorter : target.length < type.length :=
    Nat.lt_trans (length_of_referenced? hinner) (length_of_looksThrough (.option h))
  rw [inferType, optionInner?_eq_some_iff.2 h]
  simp only [Option.getD_some, hinner]
  exact if_pos hshorter

/-- Inside an option it takes any other type for a path, also when that is an option once more. -/
theorem inferType_of_option (h : IsOptionOf type inner) (hinner : referenced? inner = none) :
    inferType type = pathMeaning inner := by
  rw [inferType, optionInner?_eq_some_iff.2 h]
  simp only [Option.getD_some, hinner]
  rfl

/-- A type that is neither an option nor a reference is taken for a path. -/
theorem inferType_of_path (h : optionInner? type = none) (href : referenced? type = none) :
    inferType type = pathMeaning type := by
  rw [inferType, h]
  simp only [Option.getD_none, href]
  rfl

/-- The path of an option has no meaning of its own. -/
theorem pathMeaning_of_isOptionOf (h : IsOptionOf type inner) : pathMeaning type = .other := by
  have hname : namedTypes.lookup "Option" = none := by decide
  simp only [pathMeaning, h.path, hname, Option.getD_none]

/-- An option of an option stops the derivation. -/
theorem inferType_of_nestsOption (h : NestsOption type) : inferType type = .other := by
  have hnested {type inner arg : List Token} (h : IsOptionOf type inner)
      (hinner : IsOptionOf inner arg) : inferType type = .other := by
    rw [inferType_of_option h (referenced?_of_isOptionOf hinner), pathMeaning_of_isOptionOf hinner]
  induction hlength : type.length using Nat.strongRecOn generalizing type with
  | ind n ih =>
    cases h with
    | here h hinner => exact hnested h hinner
    | @behind _ inner h hinner =>
      have hshorter := length_of_looksThrough h
      cases h with
      | reference h =>
        rw [inferType_of_reference h]
        exact ih _ (hlength ▸ hshorter) hinner rfl
      | option h =>
        cases hinner with
        | here hinner => exact hnested h hinner
        | @behind _ target hinner htarget =>
          have htargetShorter := length_of_looksThrough hinner
          cases hinner with
          | option hinner => exact hnested h hinner
          | reference hinner =>
            rw [inferType_of_option_of_reference h hinner]
            exact ih _ (hlength ▸ Nat.lt_trans htargetShorter hshorter) htarget rfl

/-- Where no option stands in an option, the derivation finds the meaning. The induction is on the
length of the type, as in the definition. -/
theorem means_inferType_of_not_nestsOption (h : ¬ NestsOption type) :
    Means type (inferType type) := by
  -- The derivation goes on with a part of the type, so the induction is on the number of tokens.
  induction hlength : type.length using Nat.strongRecOn generalizing type with
  | ind n ih =>
    cases hoption : optionInner? type with
    | some inner =>
      have hthrough := LooksThrough.option (optionInner?_eq_some_iff.1 hoption)
      have hshorter := length_of_looksThrough hthrough
      cases href : referenced? inner with
      | some target =>
        have htarget : ¬ NestsOption target := fun hnests =>
          h (.behind hthrough (.behind (.reference href) hnests))
        have htargetShorter := Nat.lt_trans (length_of_referenced? href) hshorter
        rw [inferType_of_option_of_reference (optionInner?_eq_some_iff.1 hoption) href]
        have hmeans := ih _ (hlength ▸ htargetShorter) htarget rfl
        exact .behind hthrough (.behind (.reference href) hmeans)
      | none =>
        -- The derivation takes off one option only. A second one would be nested in the first.
        have hnested : optionInner? inner = none := by
          refine Option.eq_none_iff_forall_ne_some.2 fun arg harg => h ?_
          exact .here (optionInner?_eq_some_iff.1 hoption) (optionInner?_eq_some_iff.1 harg)
        rw [inferType_of_option (optionInner?_eq_some_iff.1 hoption) href]
        exact .behind hthrough (.path (not_looksThrough hnested href))
    | none =>
      cases href : referenced? type with
      | some target =>
        have htarget : ¬ NestsOption target := fun hnests =>
          h (.behind (.reference href) hnests)
        rw [inferType_of_reference href]
        exact .behind (.reference href)
          (ih _ (hlength ▸ length_of_referenced? href) htarget rfl)
      | none =>
        rw [inferType_of_path hoption href]
        exact .path (not_looksThrough hoption href)

/-- The derivation infers the meaning of a type, unless it meets an option of an option and the
values have a meaning of their own. -/
theorem means_inferType_iff :
    Means type (inferType type) ↔ (NestsOption type → Means type .other) := by
  constructor
  · intro hmeans hnests
    rwa [inferType_of_nestsOption hnests] at hmeans
  · intro hother
    by_cases hnests : NestsOption type
    · rw [inferType_of_nestsOption hnests]
      exact hother hnests
    · exact means_inferType_of_not_nestsOption hnests

end EntityQuery.Derive
