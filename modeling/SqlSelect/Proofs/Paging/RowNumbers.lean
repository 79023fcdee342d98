import SqlSelect.Proofs.Paging.Bounds
import SqlSelect.Proofs.Rendering.Aliases

/-!
# `SqlSelect.Proofs.Paging.RowNumbers`: the column with the numbers of the rows

Where rows are limited by their numbers, the query in the middle adds a column to those of the
select list, and the query around it reads the numbers off this column by its name. The name is
always the same. The aliases that are generated for the select list differ from it, but a select
list may have a column of this name itself, or give the name as an alias. Such an entry is left as
it is, unless it is a column and the name is taken already, and then two columns have the name that
the bounds are put on.

* `Query.count_resultNames_rowNumberAlias`: the entries that have the name of the numbers.
* `Query.numberedNames_distinct_iff`: when the name denotes the numbers and nothing else.
* `Query.numberedNames_of_namedColumn`: two statements in which it does not.
-/

set_option autoImplicit false

namespace SqlSelect

namespace Query

open Column

/-- The names of the columns in the middle query: those of the select list, and behind them that of
the numbers. -/
def numberedNames {σ : Type} (q : Query σ) : List String :=
  q.columns.filterMap resultName? ++ [rowNumberAlias]

/-- No generated alias is the end of the name of the numbers, as there is no small letter in it. -/
theorem generatedAlias_not_isSuffix_rowNumberAlias (n : Nat) :
    ¬ (generatedAlias n).toList <:+ rowNumberAlias.toList := by
  intro hsuffix
  have hletter : 'a' ∈ (generatedAlias n).toList := by
    rw [toList_generatedAlias]
    exact List.mem_cons_self
  exact absurd (hsuffix.subset hletter) (by decide)

/-- So no generated alias is that name. -/
theorem generatedAlias_ne_rowNumberAlias (n : Nat) : generatedAlias n ≠ rowNumberAlias := by
  intro heq
  exact generatedAlias_not_isSuffix_rowNumberAlias n ⟨[], congrArg String.toList heq⟩

/-- The entries with the name of the numbers are those that are given it as an alias. If there is
none, it is the first column of this name. -/
theorem count_resultNames_rowNumberAlias (entries : List String) :
    ((aliasDuplicates entries).filterMap resultName?).count rowNumberAlias
      = (entries.filterMap existingAlias?).count rowNumberAlias
        + if rowNumberAlias ∉ entries.filterMap existingAlias? ∧
            rowNumberAlias ∈ entries.filterMap plainName?
          then 1 else 0 := by
  obtain ⟨numbers, h⟩ := aliased_aliasDuplicates entries
  -- No alias is generated that could be taken for the name, not even as a part of an entry.
  have hread : ∀ entry ∈ entries, ∀ own, plainName? entry = some own → ∀ n,
      resultName? (withAlias entry n) = some rowNumberAlias ↔
        generatedAlias n = rowNumberAlias := by
    intro entry _ own hown n
    refine iff_of_false (fun hname => ?_) (generatedAlias_ne_rowNumberAlias n)
    exact generatedAlias_not_isSuffix_rowNumberAlias n
      (isSuffix_of_resultName?_withAlias hown hname)
  have hnone : ¬ ∃ n ∈ numbers, generatedAlias n = rowNumberAlias := by
    rintro ⟨n, -, heq⟩
    exact generatedAlias_ne_rowNumberAlias n heq
  rw [h.count_resultNames hread]
  simp only [hnone, or_false]

/-- The name of the numbers stands in the result exactly if it does in the select list. -/
theorem rowNumberAlias_mem_resultNames_iff (entries : List String) :
    rowNumberAlias ∈ (aliasDuplicates entries).filterMap resultName? ↔
      rowNumberAlias ∈ entries.filterMap resultName? := by
  rw [mem_resultNames_iff entries, ← List.count_pos_iff, count_resultNames_rowNumberAlias]
  by_cases hgiven : rowNumberAlias ∈ entries.filterMap existingAlias?
  · exact iff_of_true (Nat.add_pos_left (List.count_pos_iff.mpr hgiven) _) (.inl hgiven)
  · rw [List.count_eq_zero.mpr hgiven, Nat.zero_add]
    by_cases hplain : rowNumberAlias ∈ entries.filterMap plainName? <;> simp [hgiven, hplain]

/-- Rows are limited by their numbers, and the name of the numbers denotes them and nothing else,
exactly if no entry of the select list has this name. Otherwise all entries that are given it as an
alias have it beside them, or the first column of this name. -/
theorem numberedNames_distinct_iff {σ : Type} (q : Query σ) {d : Dialect}
    (hmeans : d.pagination = .rowNumber) {limit offset : Option Int}
    (hbound : limit.isSome ∨ 0 < offset.getD 0) :
    let r := q.byRowNumber limit (effectiveOffset offset)
    q.paginate d limit offset = .ok r ∧
      (rowNumberAlias ∉ r.columns.filterMap resultName? ↔
        rowNumberAlias ∉ q.columns.filterMap resultName?) ∧
      (r.numberedNames.count rowNumberAlias = 1 ↔
        rowNumberAlias ∉ q.columns.filterMap resultName?) ∧
      r.numberedNames.count rowNumberAlias
        = (q.columns.filterMap existingAlias?).count rowNumberAlias
          + (if rowNumberAlias ∉ q.columns.filterMap existingAlias? ∧
              rowNumberAlias ∈ q.columns.filterMap plainName?
            then 1 else 0)
          + 1 := by
  intro r
  -- The name comes behind those of the select list, so it counts once more.
  have hnumbered : r.numberedNames.count rowNumberAlias
      = (r.columns.filterMap resultName?).count rowNumberAlias + 1 := by
    rw [numberedNames, List.count_append, List.count_singleton_self]
  have hkept : rowNumberAlias ∉ r.columns.filterMap resultName? ↔
      rowNumberAlias ∉ q.columns.filterMap resultName? :=
    not_congr (rowNumberAlias_mem_resultNames_iff q.columns)
  refine ⟨q.paginate_byRowNumber hmeans hbound, hkept, ?_, ?_⟩
  · rw [hnumbered, Nat.add_eq_right, List.count_eq_zero]
    exact hkept
  · rw [hnumbered]
    exact congrArg (· + 1) (count_resultNames_rowNumberAlias q.columns)

/-- A select list in which the name is given as an alias and two columns are named like it. The
columns get aliases, and the alias stays. -/
theorem numberedNames_distinct_iff_givenAlias :
    let q : Query String :=
      { columns := ["t.c", "t.RN$", "u.d AS RN$", "u.RN$"], sources := ["t", "u"] }
    let r := q.byRowNumber (some 5) none
    Backend.oracle.dialect.pagination = .rowNumber ∧ (some (5 : Int)).isSome ∧
      q.paginate Backend.oracle.dialect (some 5) none = .ok r ∧
      r.columns = ["t.c", "t.RN$ a0", "u.d AS RN$", "u.RN$ a1"] ∧
      r.numberedNames.count rowNumberAlias = 2 := by
  intro q r
  have hmeans : Backend.oracle.dialect.pagination = .rowNumber := rfl
  have hbound : (some (5 : Int)).isSome ∨ 0 < (none : Option Int).getD 0 := .inl rfl
  have hcolumns : r.columns = ["t.c", "t.RN$ a0", "u.d AS RN$", "u.RN$ a1"] := by decide +kernel
  obtain ⟨hpaginate, -, -, hcount⟩ := numberedNames_distinct_iff q hmeans hbound
  refine ⟨hmeans, rfl, hpaginate, hcolumns, hcount.trans ?_⟩
  decide +kernel

end Query

namespace Criteria

/-- Statements with two columns of the name that the bounds are put on. A select column is named
like the numbers, or gets their name as its alias. -/
theorem numberedNames_of_namedColumn :
    (∃ k q values, ofSteps [.select "t.RN$", .setLimit 5] = .ok k ∧
        k.build Backend.oracle.dialect .inline false = .ok (q, values) ∧
        (q.columns.filterMap Query.resultName?, q.numberedNames, q.text) =
          (["RN$"], ["RN$", "RN$"], "SELECT B.* FROM (SELECT A.*, rownum AS RN$ FROM " ++
            "(SELECT t.RN$ FROM t) A) B WHERE B.RN$ <= 5")) ∧
    ∃ k q values, ofSteps [.selectAs "RN$" "t.id", .setOffset 3] = .ok k ∧
      k.build Backend.oracle.dialect .inline false = .ok (q, values) ∧
      (q.columns.filterMap Query.resultName?, q.numberedNames, q.text) =
        (["RN$"], ["RN$", "RN$"], "SELECT B.* FROM (SELECT A.*, rownum AS RN$ FROM " ++
          "(SELECT t.id AS RN$ FROM t) A) B WHERE B.RN$ > 3") := by
  refine ⟨exists_of_map_build ?_, exists_of_map_build ?_⟩
  · decide +kernel
  · decide +kernel

end Criteria

end SqlSelect
