import SqlSelect.Proofs.Building.Steps

/-!
# `SqlSelect.Proofs.Building.Acceptance`: what is refused, and for which column

A step that registers the tables of an expression fails if there is nothing to register, and the
error is the expression's own. A step with a condition fails for the first of the columns that it
looks at. Conditions of rows and of groups leave out the raw conditions, whose columns are only
looked at for tables. A join looks at every column of its condition.

* `Column.fault?`, `Criteria.errorOf?_register`: one expression.
* `Criteria.errorOf?_andWhere`, `Criteria.errorOf?_andHaving`, `Criteria.errorOf?_joinTable`: a
  condition.
* `Criteria.exists_joinTable_iff`: the conditions that a join accepts are those that WHERE accepts
  and whose raw conditions are readable as columns.
-/

set_option autoImplicit false

namespace SqlSelect

open Column

/-! ### Columns -/

namespace Column

variable {expression : String} {e : QueryError}

/-- The error that an expression is refused with, if it is malformed. -/
def fault? (expression : String) : Option QueryError :=
  errorOf? (tableNames expression)

/-- An expression is without fault exactly if its tables can be read. -/
theorem fault?_eq_none_iff : fault? expression = none ↔ Readable expression :=
  errorOf?_eq_none_iff

/-- An expression is refused in its own name. -/
theorem eq_malformedColumn_of_fault? (h : fault? expression = some e) :
    e = .malformedColumn expression := by
  have herror : tableNames expression = .error e := errorOf?_eq_some_iff.mp h
  unfold tableNames at herror
  dsimp only at herror
  split at herror <;> cases herror
  rfl

/-- A list of columns is without fault if each of them is readable. -/
theorem findSome?_fault?_eq_none_iff {columns : List String} :
    columns.findSome? fault? = none ↔ ∀ column ∈ columns, Readable column := by
  simp only [List.findSome?_eq_none_iff, fault?_eq_none_iff]

end Column

/-- The first find among many lists is the first one of the first list that has one. -/
theorem findSome?_flatMap {α β γ : Type} (f : α → List β) (g : β → Option γ) (xs : List α) :
    (xs.flatMap f).findSome? g = xs.findSome? fun x => (f x).findSome? g := by
  induction xs with
  | nil => rfl
  | cons x xs ih =>
    rw [List.flatMap_cons, List.findSome?_append, ih, List.findSome?_cons]
    cases (f x).findSome? g <;> rfl

/-! ### Conditions -/

/-- The column expressions of a comparison that have to be readable in WHERE and HAVING. -/
def Comparison.checkedColumns (c : Comparison) : List String :=
  if c.operator = .custom then [] else c.columns

/-- The column expressions of a criterion that have to be readable in WHERE and HAVING. -/
def Criterion.checkedColumns (c : Criterion) : List String :=
  c.comparisons.flatMap Comparison.checkedColumns

/-- The columns that are checked are those of the comparisons that are not raw conditions. -/
theorem Criterion.mem_checkedColumns (c : Criterion) {column : String} :
    column ∈ c.checkedColumns ↔
      ∃ x ∈ c.comparisons, x.operator ≠ .custom ∧ column ∈ x.columns := by
  have hcomparison : ∀ x : Comparison,
      column ∈ x.checkedColumns ↔ x.operator ≠ .custom ∧ column ∈ x.columns := by
    intro x
    rw [Comparison.checkedColumns]
    by_cases hcustom : x.operator = .custom <;> simp [hcustom]
  simp only [checkedColumns, List.mem_flatMap, hcomparison]

/-- A condition is readable exactly if every column that is checked is. -/
theorem Criterion.readable_iff (c : Criterion) :
    c.Readable ↔ ∀ column ∈ c.checkedColumns, Column.Readable column := by
  simp only [mem_checkedColumns]
  constructor
  · rintro h column ⟨x, hx, hcustom, hcolumn⟩
    exact h x hx hcustom column hcolumn
  · intro h x hx hcustom column hcolumn
    exact h column ⟨x, hx, hcustom, hcolumn⟩

/-- Without a column on its right side, a comparison has the one on its left. -/
theorem Comparison.columns_of_right? {c : Comparison} (h : ∀ name, c.right? ≠ some (.column name)) :
    c.columns = [c.column] := by
  unfold columns
  split
  · rename_i r other htest
    exact absurd (by rw [right?, htest]) (h other)
  · rfl

/-- A condition in itself has no column besides its own. -/
theorem Comparison.columns_of_custom {c : Comparison} (h : c.operator = .custom) :
    c.columns = [c.column] := by
  obtain ⟨sql, hsql⟩ := c.operator_eq_custom_iff.mp h
  rw [columns, hsql]

namespace Criteria

/-- Registering the tables of an expression fails for the fault of the expression and for nothing
else. -/
theorem errorOf?_register (k : Criteria) (expression : String) :
    errorOf? (k.register expression) = fault? expression :=
  errorOf?_map _ _

/-- Unless a comparison is a condition in itself, each of its columns is registered. -/
theorem registerComparison_of_ne_custom {c : Comparison} (h : c.operator ≠ .custom)
    (k : Criteria) : k.registerComparison c = c.columns.foldlM register k := by
  unfold registerComparison
  split
  · rename_i sql hsql
    exact absurd (c.operator_eq_custom_iff.mpr ⟨sql, hsql⟩) h
  · rfl

/-- A comparison fails for its first column at fault, and a raw condition not at all. -/
theorem errorOf?_registerComparison (k : Criteria) (c : Comparison) :
    errorOf? (k.registerComparison c) = c.checkedColumns.findSome? fault? := by
  rw [Comparison.checkedColumns]
  by_cases hcustom : c.operator = .custom
  · obtain ⟨sql, hsql⟩ := c.operator_eq_custom_iff.mp hcustom
    rw [if_pos hcustom, registerComparison, hsql]
    rfl
  · rw [if_neg hcustom, registerComparison_of_ne_custom hcustom]
    exact errorOf?_foldlM errorOf?_register c.columns k

/-- A condition fails for the first column at fault in the order of its comparisons. -/
theorem errorOf?_registerCriterion (k : Criteria) (c : Criterion) :
    errorOf? (k.registerCriterion c) = c.checkedColumns.findSome? fault? := by
  rw [Criterion.checkedColumns, findSome?_flatMap]
  exact errorOf?_foldlM errorOf?_registerComparison c.comparisons k

/-- A condition of rows is refused for the first of its checked columns at fault. What the criteria
hold by then plays no part. -/
theorem errorOf?_andWhere (k : Criteria) (c : Criterion) :
    errorOf? (k.andWhere c) = c.checkedColumns.findSome? fault? := by
  rw [andWhere, errorOf?_map, errorOf?_registerCriterion]

/-- A condition of groups is refused for the same columns as one of rows. -/
theorem errorOf?_andHaving (k : Criteria) (c : Criterion) :
    errorOf? (k.andHaving c) = c.checkedColumns.findSome? fault? := by
  rw [andHaving, errorOf?_map, errorOf?_registerCriterion]

/-- A join looks at every column, those of raw conditions too. This is where it parts from
`errorOf?_andWhere`. -/
theorem errorOf?_joinTable {joinType : JoinType} (h : joinType ≠ .cross) (k : Criteria)
    (table : String) (c : Criterion) :
    errorOf? (k.joinTable table joinType c) = c.columnRefs.findSome? fault? := by
  have hcolumn : ∀ (k : Criteria) (column : String),
      errorOf? (registerJoinColumn table k column) = fault? column := by
    intro k column
    exact errorOf?_map _ _
  rw [joinTable, if_neg h, errorOf?_map]
  exact errorOf?_foldlM hcolumn c.columnRefs k

/-- WHERE takes the readable conditions, and no others. -/
theorem exists_andWhere_iff (k : Criteria) (c : Criterion) :
    (∃ k', k.andWhere c = .ok k') ↔ c.Readable := by
  rw [← errorOf?_eq_none_iff, errorOf?_andWhere, findSome?_fault?_eq_none_iff, c.readable_iff]

/-- The conditions that a join accepts are those that WHERE accepts and in which each raw condition
refers to a table or has a wildcard. Where WHERE accepts a condition that a join does not, the error
names a raw condition. -/
theorem exists_joinTable_iff {joinType : JoinType} (h : joinType ≠ .cross) (k : Criteria)
    (table : String) (c : Criterion) :
    ((∃ k', k.joinTable table joinType c = .ok k') ↔
      (∃ k', k.andWhere c = .ok k') ∧
        ∀ x ∈ c.comparisons, x.operator = .custom → Readable x.column) ∧
      ∀ e, k.joinTable table joinType c = .error e → (∃ k', k.andWhere c = .ok k') →
        ∃ x ∈ c.comparisons, x.operator = .custom ∧ e = .malformedColumn x.column := by
  rw [exists_andWhere_iff]
  constructor
  · -- Both look at the columns of the comparisons that are no raw conditions; a raw condition has
    -- one column, its text, and only the join looks at it.
    rw [← errorOf?_eq_none_iff, errorOf?_joinTable h, findSome?_fault?_eq_none_iff,
      Criterion.columnRefs, List.forall_mem_flatMap]
    constructor
    · intro hall
      refine ⟨fun x hx _ => hall x hx, ?_⟩
      intro x hx hcustom
      apply hall x hx
      rw [Comparison.columns_of_custom hcustom, List.mem_singleton]
    · rintro ⟨hreadable, hraw⟩ x hx
      by_cases hcustom : x.operator = .custom
      · rw [Comparison.columns_of_custom hcustom, List.forall_mem_singleton]
        exact hraw x hx hcustom
      · exact hreadable x hx hcustom
  · intro e herror hreadable
    rw [← errorOf?_eq_some_iff, errorOf?_joinTable h] at herror
    obtain ⟨column, hcolumn, hfault⟩ := List.exists_of_findSome?_eq_some herror
    obtain ⟨x, hx, hcolumn⟩ := List.mem_flatMap.mp hcolumn
    by_cases hcustom : x.operator = .custom
    · rw [Comparison.columns_of_custom hcustom, List.mem_singleton] at hcolumn
      subst hcolumn
      exact ⟨x, hx, hcustom, eq_malformedColumn_of_fault? hfault⟩
    · -- WHERE looks at this column as well.
      rw [fault?_eq_none_iff.mpr (hreadable x hx hcustom column hcolumn)] at hfault
      cases hfault

/-- A raw condition that compares two columns, beside a condition on a third one. -/
theorem exists_joinTable_iff_comparedColumns :
    JoinType.left ≠ .cross ∧
      ∃ k', empty.joinTable "b" .left (.group .and [.custom "a.x < b.y",
        .comparison ⟨"b.z", .nullness true, false⟩]) = .ok k' := by
  have hleft : JoinType.left ≠ .cross := by decide
  refine ⟨hleft, ?_⟩
  have haccepted := (exists_joinTable_iff hleft empty "b"
    (.group .and [.custom "a.x < b.y", .comparison ⟨"b.z", .nullness true, false⟩])).1
  rw [haccepted]
  constructor
  · rw [← errorOf?_eq_none_iff, errorOf?_andWhere]
    decide +kernel
  · intro x hx hcustom
    rw [← fault?_eq_none_iff]
    have hcases : x = ⟨"a.x < b.y", .raw "a.x < b.y", false⟩ ∨
        x = ⟨"b.z", .nullness true, false⟩ := by
      simpa [Criterion.comparisons, Criterion.comparisonsOfAll, Criterion.custom] using hx
    rcases hcases with rfl | rfl
    · decide +kernel
    · cases hcustom

/-- A raw condition without a table is accepted in WHERE and refused in a join. -/
theorem joinTable_custom_refused :
    (∃ k', empty.andWhere (.custom "1=1") = .ok k') ∧
      empty.joinTable "b" .inner (.custom "1=1") = .error (.malformedColumn "1=1") := by
  constructor
  · rw [← errorOf?_eq_none_iff]
    decide +kernel
  · rw [← errorOf?_eq_some_iff]
    decide +kernel

end Criteria

end SqlSelect
