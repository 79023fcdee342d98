import Mathlib.Logic.ExistsUnique
import SqlSelect.Proofs.Building.Steps
import SqlSelect.Proofs.Paging.Bounds

/-!
# `SqlSelect.Proofs.Paging.Pages`: every row is on one page

A page is asked for by its number and the number of rows on a page. `Criteria.paginate` makes a
limit and an offset of them, and where rows are limited by their numbers, these become a condition
on the number of a row. The condition of the first page has no lower bound, since an offset of zero
does not count, and on the last pages the upper bound is kept below the largest 64-bit integer. It
is still the page that a row belongs to: no row is on two pages, and none is left out, up to the
last row that has a number.

* `Query.keepsRow_of_paginate`: the rows of a page.
* `Criteria.paginate_eq_ok_iff`: which pages there are.
* `Criteria.existsUnique_page`: every row is on exactly one of them.
-/

set_option autoImplicit false

namespace SqlSelect

open Number (int64Bounds)

namespace Query

variable {σ : Type}

/-- Whether the query around a statement keeps the row with a number: its condition is read as a
test, and the number passes. -/
def KeepsRow (q : Query σ) (i : Nat) : Prop :=
  ∃ before behind test, q.beforeText = some before ∧ q.afterText = some behind ∧
    Bounds.readSubquery? (Bounds.words before) (Bounds.words behind) = some test ∧
    test i = true

/-- A row is kept exactly if its number is in the window. -/
theorem keepsRow_byRowNumber_iff (q : Query σ) {n m : Option Nat} (h : n.isSome ∨ m.isSome)
    {i : Nat} (hi : 0 < i) (hmax : i < 2 ^ 63) :
    (q.byRowNumber (n.map Nat.cast) (m.map Nat.cast)).KeepsRow i ↔
      Window.has ⟨m.getD 0, n⟩ i = true := by
  obtain ⟨test, hread, htest⟩ := Bounds.readSubquery?_rowBound h
  rw [← htest i hi hmax]
  constructor
  · rintro ⟨before, behind, test', hbefore, hbehind, hread', hkeeps⟩
    cases hbefore
    cases hbehind
    rw [hread] at hread'
    cases hread'
    exact hkeeps
  · exact fun hkeeps => ⟨_, _, test, rfl, rfl, hread, hkeeps⟩

/-- A limit and an offset keep the rows behind the offset, as many as the limit says. The sum of the
two may be larger than every number of a row. -/
theorem keepsRow_of_paginate (q : Query σ) {d : Dialect} (hmeans : d.pagination = .rowNumber)
    {limit offset : Int} (hlimit : 0 ≤ limit) (hoffset : 0 ≤ offset) {i : Nat} (hi : 0 < i)
    (hmax : i < 2 ^ 63) :
    ∃ r, q.paginate d (some limit) (some offset) = .ok r ∧
      (r.KeepsRow i ↔ offset < i ∧ (i : Int) ≤ offset + limit) := by
  -- An offset of zero leaves no lower bound, which lets the same rows through.
  obtain ⟨m, hm, hskip⟩ := effectiveOffset_eq (some offset)
  have hbounded : (some limit).isSome ∨ 0 < (some offset).getD 0 := .inl rfl
  have hpaginate := q.paginate_byRowNumber hmeans hbounded
  have hcast : some limit = (some limit.toNat).map Nat.cast :=
    congrArg some (Int.toNat_of_nonneg hlimit).symm
  have hrow := q.keepsRow_byRowNumber_iff (n := some limit.toNat) (m := m) (.inl rfl) hi hmax
  rw [← hcast, ← hm] at hrow
  refine ⟨_, hpaginate, hrow.trans ?_⟩
  simp only [Window.has, hskip, Option.getD_some, Option.map_some, Bool.and_eq_true,
    decide_eq_true_eq]
  omega

end Query

namespace Criteria

variable (k : Criteria) (page perPage : Int)

/-- There is a page for every positive number, as long as the number of rows in front of it is a
64-bit integer. -/
theorem paginate_eq_ok_iff {k' : Criteria} :
    k.paginate page perPage = .ok k' ↔
      (1 ≤ page ∧ 1 ≤ perPage ∧ (page - 1) * perPage ≤ int64Bounds.2) ∧
        k' = { k with limit := some perPage, offset := some ((page - 1) * perPage) } := by
  unfold paginate
  by_cases hpositive : page < 1 ∨ perPage < 1
  · rw [if_pos hpositive]
    exact iff_of_false (by simp) (by omega)
  · have hpage : 1 ≤ page := by omega
    have hperPage : 1 ≤ perPage := by omega
    rw [if_neg hpositive]
    dsimp only
    by_cases hoverflow : int64Bounds.2 < (page - 1) * perPage
    · rw [if_pos hoverflow]
      exact iff_of_false (by simp) (by omega)
    · -- Neither the limit nor the offset is negative.
      have hskipped : ¬ (page - 1) * perPage < 0 :=
        Int.not_lt.mpr (Int.mul_nonneg (by omega) (by omega))
      have hlimit : ¬ perPage < 0 := by omega
      rw [if_neg hoverflow, setLimit, if_neg hlimit]
      show (setOffset _ _ = _) ↔ _
      rw [setOffset, if_neg hskipped]
      refine ⟨fun h => ⟨⟨hpage, hperPage, Int.not_lt.mp hoverflow⟩, (Except.ok.inj h).symm⟩, ?_⟩
      rintro ⟨-, rfl⟩
      rfl

/-- A page is refused for its number, for its size, or because its offset is too large for a 64-bit
integer. -/
theorem paginate_fails_iff :
    (∃ e, k.paginate page perPage = .error e) ↔
      page < 1 ∨ perPage < 1 ∨ int64Bounds.2 < (page - 1) * perPage := by
  cases h : k.paginate page perPage with
  | error e =>
    refine iff_of_true ⟨e, rfl⟩ ?_
    by_contra hnone
    have hok := (k.paginate_eq_ok_iff page perPage).mpr ⟨by omega, rfl⟩
    rw [h] at hok
    cases hok
  | ok k' =>
    obtain ⟨hpage, -⟩ := (k.paginate_eq_ok_iff page perPage).mp h
    exact iff_of_false (by simp) (by omega)

/-- The page of a row is the number of full pages in front of the row, and one more. -/
theorem mem_page_iff {perPage : Int} (hperPage : 1 ≤ perPage) (page i : Int) :
    (page - 1) * perPage < i ∧ i ≤ (page - 1) * perPage + perPage ↔
      page = (i - 1) / perPage + 1 := by
  have hfirst : page - 1 ≤ (i - 1) / perPage ↔ (page - 1) * perPage ≤ i - 1 :=
    Int.le_ediv_iff_mul_le (by omega)
  have hlast : (i - 1) / perPage < page - 1 + 1 ↔ i - 1 < (page - 1 + 1) * perPage :=
    Int.ediv_lt_iff_lt_mul (by omega)
  have hnext : (page - 1 + 1) * perPage = (page - 1) * perPage + perPage := by
    rw [Int.add_mul, Int.one_mul]
  omega

variable {k page perPage}

/-- A page has the rows that it is the page of. -/
theorem keepsRow_iff_of_paginate {σ : Type} (q : Query σ) {d : Dialect}
    (hmeans : d.pagination = .rowNumber) {k' : Criteria}
    (h : k.paginate page perPage = .ok k') {i : Nat} (hi : 1 ≤ i)
    (hmax : (i : Int) ≤ int64Bounds.2) :
    ∃ r, q.paginate d k'.limit k'.offset = .ok r ∧
      (r.KeepsRow i ↔ page = ((i : Int) - 1) / perPage + 1) := by
  obtain ⟨⟨hpage, hperPage, -⟩, rfl⟩ := (k.paginate_eq_ok_iff page perPage).mp h
  have hskipped : 0 ≤ (page - 1) * perPage := Int.mul_nonneg (by omega) (by omega)
  have hbound : i < 2 ^ 63 := by
    have hvalue : int64Bounds.2 = 2 ^ 63 - 1 := rfl
    omega
  obtain ⟨r, hr, hrows⟩ := q.keepsRow_of_paginate hmeans (by omega : 0 ≤ perPage) hskipped hi hbound
  exact ⟨r, hr, hrows.trans (mem_page_iff hperPage page i)⟩

/-- There is a page for every row that has a number. -/
theorem exists_page_of_row (k : Criteria) (hperPage : 1 ≤ perPage) {i : Nat} (hi : 1 ≤ i)
    (hmax : (i : Int) ≤ int64Bounds.2) :
    (1 ≤ ((i : Int) - 1) / perPage + 1 ∧ ((i : Int) - 1) / perPage + 1 ≤ int64Bounds.2) ∧
      ∃ k', k.paginate (((i : Int) - 1) / perPage + 1) perPage = .ok k' := by
  have hfirst : 0 ≤ ((i : Int) - 1) / perPage := Int.ediv_nonneg (by omega) (by omega)
  have hlast : ((i : Int) - 1) / perPage ≤ (i : Int) - 1 := Int.ediv_le_self _ (by omega)
  -- The rows in front of the page are some of those in front of the row.
  have hskipped := Int.ediv_mul_le ((i : Int) - 1) (by omega : perPage ≠ 0)
  refine ⟨by omega, _, (k.paginate_eq_ok_iff _ perPage).mpr ⟨⟨by omega, hperPage, ?_⟩, rfl⟩⟩
  rw [Int.add_sub_cancel]
  omega

/-- The pages that there are, and the rows on them. Every row that has a number is on exactly one
page, also where the last number on the page would be too large for a 64-bit integer. -/
theorem existsUnique_page (k : Criteria) {d : Dialect} (hmeans : d.pagination = .rowNumber) :
    (∀ page perPage : Int, (∃ e, k.paginate page perPage = .error e) ↔
      page < 1 ∨ perPage < 1 ∨ int64Bounds.2 < (page - 1) * perPage) ∧
    ∀ {σ : Type} (q : Query σ) (perPage : Int) (i : Nat),
      1 ≤ perPage → 1 ≤ i → (i : Int) ≤ int64Bounds.2 →
      ∃! page : Int, (1 ≤ page ∧ page ≤ int64Bounds.2) ∧
        ∃ k' r, k.paginate page perPage = .ok k' ∧
          q.paginate d k'.limit k'.offset = .ok r ∧ r.KeepsRow i := by
  refine ⟨k.paginate_fails_iff, fun q perPage i hperPage hi hmax => ?_⟩
  obtain ⟨hnumber, k', hk'⟩ := exists_page_of_row k hperPage hi hmax
  obtain ⟨r, hr, hkeeps⟩ := keepsRow_iff_of_paginate q hmeans hk' hi hmax
  refine ⟨_, ⟨hnumber, k', r, hk', hr, hkeeps.mpr rfl⟩, ?_⟩
  -- Any other page with the row has its number from the row.
  rintro page ⟨-, k₁, r₁, hk₁, hr₁, hrow⟩
  obtain ⟨r₂, hr₂, hkeeps₂⟩ := keepsRow_iff_of_paginate q hmeans hk₁ hi hmax
  rw [hr₁] at hr₂
  cases hr₂
  exact hkeeps₂.mp hrow

/-- The last row that has a number, on the second of two pages. The number behind the page is no
64-bit integer. -/
theorem existsUnique_page_lastRow :
    let q : Query String := { columns := ["*"], sources := ["t"] }
    Backend.oracle.dialect.pagination = .rowNumber ∧
      (∃! page : Int, (1 ≤ page ∧ page ≤ int64Bounds.2) ∧
        ∃ k' r, empty.paginate page 4611686018427387904 = .ok k' ∧
          q.paginate Backend.oracle.dialect k'.limit k'.offset = .ok r ∧
          r.KeepsRow 9223372036854775807) ∧
      ((empty.paginate 2 4611686018427387904).bind fun k' =>
        (q.paginate Backend.oracle.dialect k'.limit k'.offset).map Query.text)
          = .ok ("SELECT B.* FROM (SELECT A.*, rownum AS RN$ FROM (SELECT * FROM t) A) B " ++
            "WHERE B.RN$ > 4611686018427387904 AND B.RN$ <= 9223372036854775807") := by
  intro q
  have hmeans : Backend.oracle.dialect.pagination = .rowNumber := rfl
  exact ⟨hmeans, (existsUnique_page empty hmeans).2 q 4611686018427387904 9223372036854775807
    (by decide) (by decide) (by decide), by decide +kernel⟩

end Criteria

end SqlSelect
