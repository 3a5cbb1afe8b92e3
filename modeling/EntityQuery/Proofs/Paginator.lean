import EntityQuery.Proofs.Session.Page
import EntityQuery.Repository

namespace EntityQuery

namespace Numeric.Overflow

variable {exact : Int}

/-- Eight bytes hold an integer between the smallest and the largest one. -/
theorem fits_word_iff :
    fits 64 exact ↔ -9223372036854775808 ≤ exact ∧ exact ≤ 9223372036854775807 := by
  simp only [fits, Nat.reduceSub, Nat.pow_eq, Nat.reducePow, Bool.and_eq_true, decide_eq_true_eq]
  omega

/-- A result that fits is given as it is, whatever becomes of the others. -/
theorem result?_of_fits (overflow : Overflow) (h : fits 64 exact) :
    ∃ v, overflow.result? exact = some v ∧ v.toInt = exact := by
  have hbounds := fits_word_iff.1 h
  have hexact : (Int64.ofInt exact).toInt = exact :=
    Int64.toInt_ofInt_of_le (by omega) (by omega)
  cases overflow with
  | aborts => exact ⟨_, if_pos h, hexact⟩
  | wraps => exact ⟨_, rfl, hexact⟩

/-- A checked build has no result exactly if the exact one does not fit. -/
theorem result?_aborts_of_not_fits (h : ¬ fits 64 exact) : aborts.result? exact = none :=
  if_neg h

/-- An unchecked build always has a result, which is congruent to the exact one. -/
theorem result?_wraps (exact : Int) :
    ∃ v, wraps.result? exact = some v ∧ v.toInt = exact.bmod (2 ^ 64) :=
  ⟨_, rfl, Int64.toInt_ofInt⟩

end Numeric.Overflow

namespace Paginator

open Numeric Session

variable {total perPage : Int64}

/-- The exact numbers on the way to the number of pages all fit eight bytes. -/
structure StaysInRange (total perPage : Int64) : Prop where
  sum : fits 64 (total.toInt + perPage.toInt)
  pred : fits 64 (total.toInt + perPage.toInt - 1)
  quotient : fits 64 ((total.toInt + perPage.toInt - 1).tdiv perPage.toInt)

theorem toInt_le_maxValue (v : Int64) : v.toInt ≤ Int64.maxValue.toInt :=
  Int64.le_iff_toInt_le.1 (Int64.le_maxValue v)

theorem toInt_maxValue : Int64.maxValue.toInt = 9223372036854775807 := by
  decide

/-- The quotient of an integer that fits by a positive one fits as well. -/
theorem fits_tdiv {n : Int} (hn : fits 64 n) (hperPage : 1 ≤ perPage.toInt) :
    fits 64 (n.tdiv perPage.toInt) := by
  have hbounds := Overflow.fits_word_iff.1 hn
  have hle := Int.natAbs_tdiv_le_natAbs n perPage.toInt
  refine Overflow.fits_word_iff.2 ?_
  by_cases hnonneg : 0 ≤ n
  · have hquotient := Int.tdiv_nonneg hnonneg (b := perPage.toInt) (by omega)
    omega
  · have hquotient := Int.tdiv_nonneg (a := -n) (b := perPage.toInt) (by omega) (by omega)
    rw [Int.neg_tdiv] at hquotient
    omega

/-- All numbers on the way fit exactly if the first one does, which is the largest of them. -/
theorem staysInRange_iff (htotal : 0 ≤ total.toInt) (hperPage : 1 ≤ perPage.toInt) :
    StaysInRange total perPage ↔ total.toInt + perPage.toInt ≤ Int64.maxValue.toInt := by
  rw [toInt_maxValue]
  constructor
  · intro h
    exact (Overflow.fits_word_iff.1 h.sum).2
  · intro hle
    have hpred : fits 64 (total.toInt + perPage.toInt - 1) :=
      Overflow.fits_word_iff.2 ⟨by omega, by omega⟩
    exact ⟨Overflow.fits_word_iff.2 ⟨by omega, by omega⟩, hpred, fits_tdiv hpred hperPage⟩

/-- The number of pages is a quotient that is rounded up. -/
theorem natCast_pageCount (htotal : 0 ≤ total.toInt) (hperPage : 1 ≤ perPage.toInt) :
    (pageCount total.toInt.toNat perPage : Int) =
      (total.toInt + perPage.toInt - 1).tdiv perPage.toInt := by
  have hpred : ((total.toInt.toNat + perPage.toInt.toNat - 1 : Nat) : Int) =
      total.toInt + perPage.toInt - 1 := by
    omega
  have hcast : (perPage.toInt.toNat : Int) = perPage.toInt := by omega
  rw [Int.tdiv_eq_ediv_of_nonneg (by omega), pageCount, Nat.ceilDiv_eq_add_pred_div,
    Int.natCast_ediv, hpred, hcast]

/-- As long as no step leaves the range, the number of pages is the right one in every build. -/
theorem pagesOf?_of_staysInRange (overflow : Overflow) (h : StaysInRange total perPage)
    (htotal : 0 ≤ total.toInt) (hperPage : 1 ≤ perPage.toInt) :
    ∃ pages, pagesOf? overflow total perPage = some pages ∧
      pages.toInt = pageCount total.toInt.toNat perPage := by
  obtain ⟨sum, hsum, hsumExact⟩ := overflow.result?_of_fits h.sum
  obtain ⟨last, hlast, hlastExact⟩ := overflow.result?_of_fits h.pred
  obtain ⟨pages, hpages, hexact⟩ := overflow.result?_of_fits h.quotient
  refine ⟨pages, ?_, hexact.trans (natCast_pageCount htotal hperPage).symm⟩
  rw [pagesOf?, hsum, Option.bind_eq_bind, Option.bind_some, hsumExact, hlast, Option.bind_some,
    hlastExact, hpages]

/-- A checked build aborts where the sum leaves the range, before anything is divided. -/
theorem pagesOf?_aborts_eq_none (hlt : Int64.maxValue.toInt < total.toInt + perPage.toInt) :
    pagesOf? .aborts total perPage = none := by
  rw [toInt_maxValue] at hlt
  have hsum : ¬ fits 64 (total.toInt + perPage.toInt) := fun hfits => by
    have hbounds := Overflow.fits_word_iff.1 hfits
    omega
  rw [pagesOf?, Overflow.result?_aborts_of_not_fits hsum]
  rfl

/-- An unchecked build gives the right number also where the sum is one more than eight bytes hold,
because the one that is taken off brings it back. Where the sum is larger still, it has wrapped to a
negative number, and no page or fewer than none are left of it. -/
theorem pagesOf?_wraps (htotal : 0 ≤ total.toInt) (hperPage : 1 ≤ perPage.toInt) :
    ∃ pages, pagesOf? .wraps total perPage = some pages ∧
      (pages.toInt = pageCount total.toInt.toNat perPage ↔
        total.toInt + perPage.toInt ≤ Int64.maxValue.toInt + 1) := by
  have hrows := toInt_le_maxValue total
  have hsize := toInt_le_maxValue perPage
  rw [toInt_maxValue] at hrows hsize
  obtain ⟨sum, hsum, hsumWrapped⟩ := Overflow.result?_wraps (total.toInt + perPage.toInt)
  obtain ⟨last, hlast, hlastWrapped⟩ := Overflow.result?_wraps (sum.toInt - 1)
  rw [hsumWrapped, Int.bmod_sub_bmod] at hlastWrapped
  have hfits : fits 64 last.toInt := by
    have hmin := Int64.le_toInt last
    have hmax := Int64.toInt_lt last
    exact Overflow.fits_word_iff.2 ⟨by omega, by omega⟩
  obtain ⟨pages, hpages, hexact⟩ := Overflow.wraps.result?_of_fits (fits_tdiv hfits hperPage)
  refine ⟨pages, ?_, ?_⟩
  · rw [pagesOf?, hsum, Option.bind_eq_bind, Option.bind_some, hlast, Option.bind_some, hpages]
  · rw [hexact, natCast_pageCount htotal hperPage, toInt_maxValue]
    by_cases hle : total.toInt + perPage.toInt ≤ 9223372036854775807 + 1
    · have hback : last.toInt = total.toInt + perPage.toInt - 1 := by
        rw [hlastWrapped]
        exact Int.bmod_eq_of_le (by omega) (by omega)
      rw [hback]
      exact iff_of_true rfl hle
    · have hnegative : last.toInt < 0 := by
        rw [hlastWrapped, Int.bmod_def]
        split
        · omega
        · omega
      have hnone := Int.tdiv_nonneg (a := -last.toInt) (b := perPage.toInt) (by omega) (by omega)
      rw [Int.neg_tdiv] at hnone
      have hfills : 1 ≤ (total.toInt + perPage.toInt - 1).tdiv perPage.toInt := by
        rw [Int.tdiv_eq_ediv_of_nonneg (by omega), Int.le_ediv_iff_mul_le (by omega)]
        omega
      exact iff_of_false (by omega) hle

/-- A page that is accepted keeps the session and the page size that it was given. -/
theorem of_eq_ok {s : Session} {page : Int64} {p : Paginator}
    (h : Paginator.of s page perPage = .ok p) : p.session = s ∧ p.perPage = perPage := by
  unfold Paginator.of at h
  split at h
  · cases h
  · split at h
    · cases h
    · cases h
      exact ⟨rfl, rfl⟩

/-- What a paginator whose rows are counted tells. The numbers on the way to the number of pages
stay in the range of eight bytes if and only if the rows and those of one page together do. If they
do not, a checked build aborts and tells nothing; otherwise it tells the number of pages that the
rows fill. An unchecked build always tells a number, which is the right one if and only if the rows
and those of one page are together at most one more than eight bytes hold. -/
theorem totalPages_exact_iff {s : Session} {page : Int64} {p : Paginator} {backend : Backend}
    (hp : Paginator.of s page perPage = .ok p) (hcount : (p.count backend).result = .ok total)
    (htotal : 0 ≤ total) :
    (StaysInRange total perPage ↔ total.toInt + perPage.toInt ≤ Int64.maxValue.toInt) ∧
      (∃ pages?, (p.totalPages backend .aborts).result = .ok pages? ∧
        (pages? = none ↔ ¬ StaysInRange total perPage) ∧
        ∀ pages ∈ pages?, pages.toInt = pageCount total.toInt.toNat perPage) ∧
      ∃ pages, (p.totalPages backend .wraps).result = .ok (some pages) ∧
        (pages.toInt = pageCount total.toInt.toNat perPage ↔
          total.toInt + perPage.toInt ≤ Int64.maxValue.toInt + 1) := by
  obtain ⟨-, rfl⟩ := of_eq_ok hp
  have hrows : 0 ≤ total.toInt := Int64.le_iff_toInt_le.1 htotal
  have hsize : 1 ≤ p.perPage.toInt := Numeric.one_le_iff.1 p.one_le_perPage
  have hresult (overflow : Overflow) : (p.totalPages backend overflow).result =
      .ok (pagesOf? overflow total p.perPage) := by
    rw [totalPages, Outcome.andThen, hcount]
    rfl
  have hrange := staysInRange_iff hrows hsize
  refine ⟨hrange, ⟨_, hresult .aborts, ?_⟩, ?_⟩
  · by_cases hstays : StaysInRange total p.perPage
    · obtain ⟨pages, hpages, hexact⟩ := pagesOf?_of_staysInRange .aborts hstays hrows hsize
      rw [hpages]
      refine ⟨iff_of_false nofun (not_not_intro hstays), ?_⟩
      rintro _ ⟨⟩
      exact hexact
    · have hlt : Int64.maxValue.toInt < total.toInt + p.perPage.toInt :=
        not_le.1 (mt hrange.2 hstays)
      rw [pagesOf?_aborts_eq_none hlt]
      exact ⟨iff_of_true rfl hstays, nofun⟩
  · obtain ⟨pages, hpages, hiff⟩ := pagesOf?_wraps hrows hsize
    exact ⟨pages, (hresult .wraps).trans (congrArg Except.ok hpages), hiff⟩

/-- A backend that answers every question for rows with one number. -/
def Samples.counting (n : Int64) : Backend where
  fetch _ _ := .ok [⟨[("count", .int n)]⟩]
  execute _ := .ok 0

/-- Users on pages of some size. -/
def Samples.users (perPage : Int64) (h : 1 ≤ perPage) : Paginator where
  session := Session.new EntityQuery.Samples.user
  page := 1
  perPage := perPage
  one_le_page := by decide
  one_le_perPage := h

/-- A backend that answers every query with a number counts that number of rows. -/
theorem count_users {perPage : Int64} (h : 1 ≤ perPage) (n : Int64) :
    ((Samples.users perPage h).count (Samples.counting n)).result = .ok n :=
  rfl

/-- The largest number of users, on pages of one: a checked build aborts, and an unchecked one is
still right. -/
theorem totalPages_exact_iff_largest :
    let p := Samples.users 1 (by decide)
    let backend := Samples.counting Int64.maxValue
    Paginator.of (Session.new EntityQuery.Samples.user) 1 1 = .ok p ∧
      (p.count backend).result = .ok Int64.maxValue ∧ 0 ≤ Int64.maxValue ∧
      (p.totalPages backend .aborts).result = .ok none ∧
      ∃ pages, (p.totalPages backend .wraps).result = .ok (some pages) ∧
        pages.toInt = pageCount Int64.maxValue.toInt.toNat 1 := by
  intro p backend
  have hp : Paginator.of (Session.new EntityQuery.Samples.user) 1 1 = .ok p := rfl
  have hcount : (p.count backend).result = .ok Int64.maxValue := count_users _ _
  have htotal : 0 ≤ Int64.maxValue := by decide
  obtain ⟨hrange, ⟨pages?, haborts, hnone, -⟩, pages, hwraps, hexact⟩ :=
    totalPages_exact_iff hp hcount htotal
  have hleaves : ¬ StaysInRange Int64.maxValue 1 := fun hstays =>
    absurd (hrange.1 hstays) (by decide)
  refine ⟨hp, hcount, htotal, ?_, pages, hwraps, hexact.2 (by decide)⟩
  rw [haborts, hnone.2 hleaves]

/-- Two users on a page without a limit of its own. They fill one page, but the sum leaves the range
of eight bytes: a checked build aborts, and an unchecked one tells a negative number of pages. -/
theorem totalPages_of_unlimited :
    let p := Samples.users Int64.maxValue (by decide)
    let backend := Samples.counting 2
    Paginator.of (Session.new EntityQuery.Samples.user) 1 Int64.maxValue = .ok p ∧
      (p.count backend).result = .ok 2 ∧ pageCount 2 Int64.maxValue = 1 ∧
      ¬ StaysInRange 2 Int64.maxValue ∧
      (p.totalPages backend .aborts).result = .ok none ∧
      (p.totalPages backend .wraps).result = .ok (some (-1)) := by
  intro p backend
  have hpages : pageCount 2 Int64.maxValue = 1 := by
    rw [pageCount, Nat.ceilDiv_eq_add_pred_div, toInt_maxValue]
    decide
  have hleaves : ¬ StaysInRange 2 Int64.maxValue := fun hstays => absurd hstays.sum (by decide)
  have haborts : pagesOf? .aborts 2 Int64.maxValue = none := pagesOf?_aborts_eq_none (by decide)
  have hwraps : pagesOf? .wraps 2 Int64.maxValue = some (-1) := by decide
  have hresult (overflow : Overflow) : (p.totalPages backend overflow).result =
      .ok (pagesOf? overflow 2 Int64.maxValue) := rfl
  refine ⟨rfl, count_users _ _, hpages, hleaves, ?_, ?_⟩
  · rw [hresult, haborts]
  · rw [hresult, hwraps]

end Paginator

end EntityQuery
