import EntityQuery.Proofs.Session.Count
import Mathlib.Algebra.Order.Floor.Div
import Mathlib.Data.Set.Lattice

namespace EntityQuery

namespace Numeric

variable {v : Int64}

theorem one_le_iff : 1 ≤ v ↔ 1 ≤ v.toInt :=
  Int64.le_iff_toInt_le

theorem toNat_pos (h : 1 ≤ v) : 0 < v.toInt.toNat := by
  rw [one_le_iff] at h
  omega

/-- Every positive number below the bound of the 64-bit integers is one of them. -/
theorem exists_toInt_eq {n : Nat} (h : 1 ≤ n) (hbound : n < Nat.pow 2 63) :
    ∃ v : Int64, 1 ≤ v ∧ v.toInt = n := by
  have htoInt : (Int64.ofInt n).toInt = n := by
    rw [Nat.pow_eq] at hbound
    exact Int64.toInt_ofInt_of_le (by omega) (by omega)
  exact ⟨_, by rw [one_le_iff, htoInt]; omega, htoInt⟩

/-- A natural number is representable if it is below the bound. -/
theorem int64?_natCast (n : Nat) :
    int64? n = if n < Nat.pow 2 63 then some (Int64.ofInt n) else none := by
  have hfits : fits 64 n = true ↔ n < Nat.pow 2 63 := by
    simp only [fits, Nat.reduceSub, Nat.pow_eq, Nat.reducePow, Bool.and_eq_true, decide_eq_true_eq]
    omega
  rw [int64?]
  simp only [hfits]

end Numeric

namespace Session

open Numeric Sql

variable (s : Session)

/-- The session with a window, whichever it had before. -/
def withWindow (max first : Nat) : Session :=
  { s with maxResults? := some max, firstResult? := some first }

/-- The session without a window. -/
def unwindowed : Session :=
  { s with maxResults? := none, firstResult? := none }

/-- The rows that the window shows, of `total` rows with the numbers from zero on. Without an offset
a window begins with the first row. -/
def shownRows (total : Nat) : Set Nat :=
  {row | row < total ∧ s.firstResult?.getD 0 ≤ row ∧
    ∀ max ∈ s.maxResults?, row < s.firstResult?.getD 0 + max}

/-- The rows on a page of the session. A page that is refused shows none. -/
def pageRows (page perPage : Int64) (total : Nat) : Set Nat :=
  {row | ∃ window, s.paginate page perPage = .ok window ∧ row ∈ window.shownRows total}

/-- The number of rows in front of a page. -/
def pageOffset (page perPage : Int64) : Nat :=
  (page.toInt.toNat - 1) * perPage.toInt.toNat

/-- The number of pages that so many rows fill. -/
def pageCount (total : Nat) (perPage : Int64) : Nat :=
  total ⌈/⌉ perPage.toInt.toNat

/-! ### One page -/

variable {s} {page perPage : Int64} {total row : Nat}

/-- The number of rows in front of a page is the product that is checked for overflow. -/
theorem natCast_pageOffset (hpage : 1 ≤ page) (hperPage : 1 ≤ perPage) :
    (pageOffset page perPage : Int) = (page.toInt - 1) * perPage.toInt := by
  have hfirst := toNat_pos hpage
  have hsize := toNat_pos hperPage
  have hpred : ((page.toInt.toNat - 1 : Nat) : Int) = page.toInt - 1 := by omega
  have hcast : (perPage.toInt.toNat : Int) = perPage.toInt := by omega
  rw [pageOffset, Int.natCast_mul, hpred, hcast]

/-- A positive limit with an offset is accepted and replaces the window. -/
theorem limit_some {offset : Int64} (s : Session) (hperPage : 1 ≤ perPage) (hoffset : 0 ≤ offset) :
    s.limit perPage (some offset) =
      .ok (s.withWindow perPage.toInt.toNat offset.toInt.toNat) := by
  have hmax : ¬ perPage < 1 := Int64.not_lt.2 hperPage
  have hfirst : ¬ offset < 0 := Int64.not_lt.2 hoffset
  rw [limit, if_neg hmax]
  exact if_neg hfirst

/-- A page replaces the window, unless the rows in front of it are more than eight bytes count. -/
theorem paginate_of_pos (s : Session) (hpage : 1 ≤ page) (hperPage : 1 ≤ perPage) :
    s.paginate page perPage =
      if pageOffset page perPage < Nat.pow 2 63 then
        .ok (s.withWindow perPage.toInt.toNat (pageOffset page perPage))
      else .error .pageOverflow := by
  have hfirst : ¬ page < 1 := Int64.not_lt.2 hpage
  have hsize : ¬ perPage < 1 := Int64.not_lt.2 hperPage
  rw [paginate, if_neg hfirst, if_neg hsize, ← natCast_pageOffset hpage hperPage,
    int64?_natCast]
  by_cases hfits : pageOffset page perPage < Nat.pow 2 63
  · rw [if_pos hfits, if_pos hfits]
    have htoInt : (Int64.ofInt (pageOffset page perPage)).toInt = pageOffset page perPage := by
      refine Int64.toInt_ofInt_of_le (by omega) ?_
      rw [Nat.pow_eq] at hfits
      omega
    have hnonneg : 0 ≤ Int64.ofInt (pageOffset page perPage) := by
      rw [Int64.le_iff_toInt_le, htoInt]
      exact Int.natCast_nonneg _
    simp only
    rw [limit_some s hperPage hnonneg, htoInt]
    rfl
  · rw [if_neg hfits, if_neg hfits]

/-- The statement of a selection with a window is the one without it, with the window behind it.
An offset of zero is not written. -/
theorem build_withWindow (h : s.kind = .select) (max first : Nat) :
    (s.withWindow max first).build = s.unwindowed.build.map fun q =>
      ⟨q.sql ++ " LIMIT " ++ toString max ++
        if first = 0 then "" else " OFFSET " ++ toString first, q.params⟩ := by
  have hwindow (t : Session) (hkind : t.kind = .select) :
      t.statementFragments =
        t.selectFragments ++ t.whereFragments ++ (t.groupingFragments ++ t.orderingFragments) ++
          [.plain t.windowText] := by
    simp only [statementFragments, headFragments, tailFragments, hkind, List.append_assoc]
  have htext : (s.withWindow max first).windowText = " LIMIT " ++ toString max ++
      if first = 0 then "" else " OFFSET " ++ toString first := by
    cases first <;> rfl
  have hnone : s.unwindowed.windowText = "" := rfl
  rw [build_eq, build_eq, hwindow (s.withWindow max first) h, hwindow s.unwindowed h, htext, hnone,
    writeAll_concat, writeAll_concat]
  have hsame :
      writeAll (s.withWindow max first).scope {}
        ((s.withWindow max first).selectFragments ++ (s.withWindow max first).whereFragments ++
          ((s.withWindow max first).groupingFragments ++
            (s.withWindow max first).orderingFragments)) =
      writeAll s.unwindowed.scope {}
        (s.unwindowed.selectFragments ++ s.unwindowed.whereFragments ++
          (s.unwindowed.groupingFragments ++ s.unwindowed.orderingFragments)) := rfl
  rw [hsame]
  cases writeAll s.unwindowed.scope {} _ with
  | error reason => rfl
  | ok w => simp [Except.map, Writer.finish, Writer.push, String.append_assoc]

/-! ### All pages -/

/-- A page is one of those that the rows fill exactly if there are more rows than in front of it. -/
theorem le_pageCount_iff (hpage : 1 ≤ page) (hperPage : 1 ≤ perPage) :
    page.toInt ≤ pageCount total perPage ↔ pageOffset page perPage < total := by
  have hfirst := toNat_pos hpage
  have hsize := toNat_pos hperPage
  have hiff : total ⌈/⌉ perPage.toInt.toNat ≤ page.toInt.toNat - 1 ↔
      total ≤ perPage.toInt.toNat * (page.toInt.toNat - 1) :=
    ceilDiv_le_iff_le_mul hsize
  rw [Nat.mul_comm, ← pageOffset] at hiff
  rw [pageCount]
  omega

/-- A window shows `max` rows from `first` on, as far as there are so many. -/
theorem mem_shownRows_withWindow {max first : Nat} :
    row ∈ (s.withWindow max first).shownRows total ↔
      row < total ∧ first ≤ row ∧ row < first + max := by
  simp [shownRows, withWindow]

/-- The row of a number is on one page only, which its quotient by the size tells. -/
theorem mem_pageRows_iff (hpage : 1 ≤ page) (hperPage : 1 ≤ perPage)
    (htotal : total < Nat.pow 2 63) :
    row ∈ s.pageRows page perPage total ↔
      row < total ∧ row / perPage.toInt.toNat = page.toInt.toNat - 1 := by
  have hsize := toNat_pos hperPage
  have hquotient : row / perPage.toInt.toNat = page.toInt.toNat - 1 ↔
      pageOffset page perPage ≤ row ∧
        row < pageOffset page perPage + perPage.toInt.toNat := by
    rw [Nat.div_eq_iff hsize, pageOffset]
    omega
  rw [hquotient, pageRows, Set.mem_ofPred_eq, paginate_of_pos s hpage hperPage]
  constructor
  · rintro ⟨window, hwindow, hrow⟩
    split at hwindow
    · cases hwindow
      exact mem_shownRows_withWindow.1 hrow
    · cases hwindow
  · rintro ⟨hrow, hle, hlt⟩
    rw [if_pos (by omega)]
    exact ⟨_, rfl, mem_shownRows_withWindow.2 ⟨hrow, hle, hlt⟩⟩

/-- Every row is on one of the pages that the rows fill. -/
theorem exists_page_of_row (hperPage : 1 ≤ perPage) (htotal : total < Nat.pow 2 63)
    (hrow : row < total) :
    ∃ page : Int64, 1 ≤ page ∧ page.toInt ≤ pageCount total perPage ∧
      row / perPage.toInt.toNat = page.toInt.toNat - 1 := by
  have hle : row / perPage.toInt.toNat ≤ row := Nat.div_le_self _ _
  have hback : row / perPage.toInt.toNat * perPage.toInt.toNat ≤ row := Nat.div_mul_le_self _ _
  obtain ⟨quotient, hquotient⟩ : ∃ quotient, row / perPage.toInt.toNat = quotient := ⟨_, rfl⟩
  rw [hquotient] at hle hback ⊢
  obtain ⟨page, hpage, htoInt⟩ : ∃ page : Int64, 1 ≤ page ∧ page.toInt = (quotient + 1 : Nat) :=
    exists_toInt_eq (by omega) (by omega)
  have hpred : quotient = page.toInt.toNat - 1 := by omega
  refine ⟨page, hpage, ?_, hpred⟩
  rw [le_pageCount_iff hpage hperPage, pageOffset, ← hpred]
  exact hback.trans_lt hrow

/-- The pages of a size part `total` rows: each of them replaces the window of the session and shows
rows that no other page shows, together they show all rows, and a page behind them is refused,
because of its number of rows in front, or begins behind the last row. -/
structure PartsRows (s : Session) (perPage : Int64) (total : Nat) : Prop where
  accepted : ∀ page : Int64, 1 ≤ page → page.toInt ≤ pageCount total perPage →
    s.paginate page perPage =
      .ok (s.withWindow perPage.toInt.toNat (pageOffset page perPage))
  written : s.kind = .select → ∀ page : Int64,
    (s.withWindow perPage.toInt.toNat (pageOffset page perPage)).build =
      s.unwindowed.build.map fun q =>
        ⟨q.sql ++ " LIMIT " ++ toString perPage.toInt.toNat ++
          if pageOffset page perPage = 0 then ""
          else " OFFSET " ++ toString (pageOffset page perPage), q.params⟩
  nonempty : ∀ page : Int64, 1 ≤ page → page.toInt ≤ pageCount total perPage →
    (s.pageRows page perPage total).Nonempty
  disjoint : ∀ page other : Int64, 1 ≤ page → 1 ≤ other → page ≠ other →
    ∀ row ∈ s.pageRows page perPage total, row ∉ s.pageRows other perPage total
  cover : ⋃ page ∈ {page : Int64 | 1 ≤ page ∧ page.toInt ≤ pageCount total perPage},
    s.pageRows page perPage total = Set.Iio total
  behind : ∀ page : Int64, pageCount total perPage < page.toInt →
    (Nat.pow 2 63 ≤ pageOffset page perPage ∧
      s.paginate page perPage = .error .pageOverflow) ∨
    (pageOffset page perPage < Nat.pow 2 63 ∧ total ≤ pageOffset page perPage ∧
      s.paginate page perPage =
        .ok (s.withWindow perPage.toInt.toNat (pageOffset page perPage)))

/-- The pages of a positive size part any number of rows that eight bytes count. -/
theorem paginate_partitions (s : Session) (hperPage : 1 ≤ perPage) (hbound : total < Nat.pow 2 63) :
    s.PartsRows perPage total := by
  refine ⟨?_, fun hkind page => build_withWindow hkind _ _, ?_, ?_, ?_, ?_⟩
  · intro page hpage hlast
    rw [le_pageCount_iff hpage hperPage] at hlast
    rw [paginate_of_pos s hpage hperPage, if_pos (hlast.trans hbound)]
  · intro page hpage hlast
    rw [le_pageCount_iff hpage hperPage] at hlast
    refine ⟨pageOffset page perPage, (mem_pageRows_iff hpage hperPage hbound).2 ⟨hlast, ?_⟩⟩
    rw [pageOffset, Nat.mul_div_cancel _ (toNat_pos hperPage)]
  · intro page other hpage hother hne row hrow hrow'
    rw [mem_pageRows_iff hpage hperPage hbound] at hrow
    rw [mem_pageRows_iff hother hperPage hbound] at hrow'
    have hfirst := toNat_pos hpage
    have hfirst' := toNat_pos hother
    exact hne (Int64.toInt_inj.1 (by omega))
  · ext row
    simp only [Set.mem_iUnion, Set.mem_ofPred_eq, Set.mem_Iio, exists_prop]
    constructor
    · rintro ⟨page, ⟨hpage, -⟩, hrow⟩
      exact ((mem_pageRows_iff hpage hperPage hbound).1 hrow).1
    · intro hrow
      obtain ⟨page, hpage, hlast, hquotient⟩ := exists_page_of_row hperPage hbound hrow
      exact ⟨page, ⟨hpage, hlast⟩, (mem_pageRows_iff hpage hperPage hbound).2 ⟨hrow, hquotient⟩⟩
  · intro page hlast
    have hpage : 1 ≤ page := by
      rw [one_le_iff]
      omega
    have hbehind : total ≤ pageOffset page perPage := by
      rw [← not_lt, ← le_pageCount_iff hpage hperPage, not_le]
      exact hlast
    rw [paginate_of_pos s hpage hperPage]
    by_cases hfits : pageOffset page perPage < Nat.pow 2 63
    · exact Or.inr ⟨hfits, hbehind, if_pos hfits⟩
    · exact Or.inl ⟨Nat.le_of_not_lt hfits, if_neg hfits⟩

/-- The largest size of a page has the second page refused, since its number of rows in front is no
64-bit integer. -/
theorem paginate_partitions_largest :
    (1 : Int64) ≤ 2 ∧ Nat.pow 2 63 - 1 < Nat.pow 2 63 ∧
      Samples.page.PartsRows 2 (Nat.pow 2 63 - 1) := by
  have hperPage : (1 : Int64) ≤ 2 := by decide
  have hbound : Nat.pow 2 63 - 1 < Nat.pow 2 63 := by decide
  exact ⟨hperPage, hbound, paginate_partitions Samples.page hperPage hbound⟩

end Session

end EntityQuery
