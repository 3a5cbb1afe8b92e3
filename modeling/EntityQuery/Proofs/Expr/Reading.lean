import EntityQuery.Proofs.Expr.Value

namespace EntityQuery.Expr

/-- A condition as it is read, without parentheses. -/
inductive Condition
  | atom (a : Atom)
  | not (inner : Condition)
  | and (left right : Condition)
  | or (left right : Condition)
deriving DecidableEq, Repr

namespace Condition

/-- The atoms of a condition from left to right. -/
def leaves : Condition → List Atom
  | atom a => [a]
  | not inner => leaves inner
  | and left right => leaves left ++ leaves right
  | or left right => leaves left ++ leaves right

/-- The truth value of a condition. -/
def value {T : Type} [Lattice T] (i : Interpretation T) : Condition → T
  | atom a => i.atom a
  | not inner => i.negate (value i inner)
  | and left right => value i left ⊓ value i right
  | or left right => value i left ⊔ value i right

end Condition

/-- The levels of the grammar, each of which binds more tightly than the ones before it. -/
inductive Level
  | disjunction
  | conjunction
  | negation
deriving DecidableEq, Repr

/-- A row of tokens is a condition of a level. -/
inductive Reads : Level → List Token → Condition → Prop
  | atom (a : Atom) : Reads .negation [.atom a] (.atom a)
  | enclose {row : List Token} {c : Condition} (h : Reads .disjunction row c) :
    Reads .negation (enclose row) c
  | not {row : List Token} {c : Condition} (h : Reads .negation row c) :
    Reads .negation (.not :: row) (.not c)
  | ofNegation {row : List Token} {c : Condition} (h : Reads .negation row c) :
    Reads .conjunction row c
  | and {left right : List Token} {c d : Condition} (hleft : Reads .conjunction left c)
    (hright : Reads .negation right d) : Reads .conjunction (left ++ .and :: right) (.and c d)
  | ofConjunction {row : List Token} {c : Condition} (h : Reads .conjunction row c) :
    Reads .disjunction row c
  | or {left right : List Token} {c d : Condition} (hleft : Reads .disjunction left c)
    (hright : Reads .conjunction right d) : Reads .disjunction (left ++ .or :: right) (.or c d)

/-! ### Scanning a row -/

/-- What stands before the next operand behind an open parenthesis, or at the beginning, as what it
makes of that operand. -/
structure Frame where
  disjoin : Condition → Condition := id
  conjoin : Condition → Condition := id
  negate : Condition → Condition := id

/-- The whole condition behind an open parenthesis, when `operand` is its last operand. -/
def Frame.close (frame : Frame) (operand : Condition) : Condition :=
  frame.disjoin (frame.conjoin (frame.negate operand))

/-- Where the scanner stands: before an operand, or behind one. The frames outside the innermost one
are those of the parentheses around it. -/
inductive Scanner
  | before (frame : Frame) (outer : List Frame)
  | behind (operand : Condition) (frame : Frame) (outer : List Frame)

namespace Scanner

def step : Scanner → Token → Option Scanner
  | before frame outer, .atom a => some (behind (.atom a) frame outer)
  | before frame outer, .openParen => some (before {} (frame :: outer))
  | before frame outer, .not => some (before { frame with negate := frame.negate ∘ .not } outer)
  | behind operand frame outer, .closeParen =>
    match outer with
    | next :: outer => some (behind (frame.close operand) next outer)
    | [] => none
  | behind operand frame outer, .and =>
    some (before
      { frame with conjoin := .and (frame.conjoin (frame.negate operand)), negate := id } outer)
  | behind operand frame outer, .or =>
    some (before { disjoin := .or (frame.close operand) } outer)
  | _, _ => none

/-- The scanner after a row of tokens. -/
def run (scanner : Scanner) (row : List Token) : Option Scanner :=
  row.foldlM step scanner

theorem run_append {scanner next : Scanner} {left : List Token} (right : List Token)
    (h : scanner.run left = some next) : scanner.run (left ++ right) = next.run right := by
  rw [run, List.foldlM_append]
  exact congrArg (· >>= _) h

theorem run_cons {scanner next : Scanner} {token : Token} (rest : List Token)
    (h : scanner.step token = some next) : scanner.run (token :: rest) = next.run rest := by
  rw [run, List.foldlM_cons, h]
  rfl

end Scanner

open Scanner

/-- Scanning a row of a level ends behind an operand. Together with what stands before it on that
level, the operand makes up the condition that was read. -/
def Runs : Level → List Token → Condition → Prop
  | .negation, row, c => ∀ frame outer, ∃ operand negate,
    (before frame outer).run row = some (behind operand { frame with negate } outer) ∧
      negate operand = frame.negate c
  | .conjunction, row, c => ∀ disjoin outer, ∃ operand frame,
    (before { disjoin } outer).run row = some (behind operand frame outer) ∧
      frame.conjoin (frame.negate operand) = c ∧ frame.disjoin = disjoin
  | .disjunction, row, c => ∀ outer, ∃ operand frame,
    (before {} outer).run row = some (behind operand frame outer) ∧ frame.close operand = c

/-- A reading takes the scanner over its row to the condition that was read. The induction is on the
reading, for any scanner that waits for an operand. -/
theorem Reads.runs {level : Level} {row : List Token} {c : Condition} (h : Reads level row c) :
    Runs level row c := by
  -- The scanner is followed from any frame and any outer frames on, so the hypotheses hold for
  -- whatever was scanned before the part.
  induction h with
  | atom a =>
    intro frame outer
    exact ⟨.atom a, frame.negate, rfl, rfl⟩
  | @enclose row c h ih =>
    intro frame outer
    obtain ⟨operand, inner, hrun, hclose⟩ := ih (frame :: outer)
    have hopen : (before frame outer).step .openParen = some (before {} (frame :: outer)) := rfl
    have hback : (behind operand inner (frame :: outer)).step .closeParen =
        some (behind c frame outer) := by
      rw [← hclose]
      rfl
    refine ⟨c, frame.negate, ?_, rfl⟩
    rw [Expr.enclose, List.cons_append, run_cons _ hopen, run_append _ hrun, run_cons _ hback]
    rfl
  | @not row c h ih =>
    intro frame outer
    obtain ⟨operand, negate, hrun, hnegate⟩ :=
      ih { frame with negate := frame.negate ∘ .not } outer
    exact ⟨operand, negate, (run_cons _ rfl).trans hrun, hnegate⟩
  | ofNegation h ih =>
    intro disjoin outer
    obtain ⟨operand, negate, hrun, hnegate⟩ := ih { disjoin } outer
    exact ⟨operand, _, hrun, hnegate, rfl⟩
  | @and left right c d hleft hright ihleft ihright =>
    intro disjoin outer
    obtain ⟨operand, frame, hrun, hoperand, hdisjoin⟩ := ihleft disjoin outer
    -- The right side is scanned with the left one in the frame, waiting for its conjunction.
    obtain ⟨last, negate, hlast, hnegate⟩ :=
      ihright { frame with conjoin := .and (frame.conjoin (frame.negate operand)), negate := id }
        outer
    refine ⟨last, { frame with conjoin := .and (frame.conjoin (frame.negate operand)), negate },
      ?_, ?_, hdisjoin⟩
    · rw [run_append _ hrun]
      exact (run_cons _ rfl).trans hlast
    · change Condition.and (frame.conjoin (frame.negate operand)) (negate last) = .and c d
      rw [hoperand, hnegate]
      rfl
  | ofConjunction h ih =>
    intro outer
    obtain ⟨operand, frame, hrun, hoperand, hdisjoin⟩ := ih id outer
    refine ⟨operand, frame, hrun, ?_⟩
    rw [Frame.close, hoperand, hdisjoin]
    rfl
  | @or left right c d hleft hright ihleft ihright =>
    intro outer
    obtain ⟨operand, frame, hrun, hclose⟩ := ihleft outer
    obtain ⟨last, frame', hlast, hoperand, hdisjoin⟩ := ihright (.or (frame.close operand)) outer
    refine ⟨last, frame', ?_, ?_⟩
    · rw [run_append _ hrun]
      exact (run_cons _ rfl).trans hlast
    · rw [Frame.close, hoperand, hdisjoin, hclose]

/-- A row has at most one reading. -/
theorem Reads.unique {row : List Token} {c d : Condition} (hc : Reads .disjunction row c)
    (hd : Reads .disjunction row d) : c = d := by
  obtain ⟨operand, frame, hrun, hclose⟩ := hc.runs []
  obtain ⟨operand', frame', hrun', hclose'⟩ := hd.runs []
  obtain ⟨rfl, rfl, -⟩ := behind.inj (Option.some.inj (hrun.symm.trans hrun'))
  exact hclose.symm.trans hclose'

end EntityQuery.Expr
