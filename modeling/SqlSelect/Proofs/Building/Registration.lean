import SqlSelect.Criteria.Basic
import SqlSelect.Proofs.Except

/-!
# `SqlSelect.Proofs.Building.Registration`: which tables are registered

Every step of building registers the tables of the expressions that it is given. The functions that
do so differ in what they demand of an expression, and in nothing else: each leaves the criteria
`Criteria.withTables`, with some tables behind those that were registered before.

* `Criteria.of_register`, `Criteria.registerIfQualified_eq`: one expression.
* `Criteria.of_foldlM`: a list, item by item.
* `Criteria.of_registerCriterion`, `Criteria.of_registerJoinColumns`: a condition. A comparison
  with a table that cannot be read fails unless its right side is a condition in itself.
-/

set_option autoImplicit false

namespace SqlSelect

namespace Column

/-- The tables that an expression refers to, none if it is malformed. -/
def tablesOf (expression : String) : List String :=
  (tableNames expression).toOption.getD []

/-- Whether an expression names tables, or has a wildcard. -/
def Readable (expression : String) : Prop :=
  ∃ tables, tableNames expression = .ok tables

/-- Where the tables of an expression can be read, they are the ones that are read. -/
theorem tablesOf_eq {expression : String} {tables : List String}
    (h : tableNames expression = .ok tables) : tablesOf expression = tables := by
  rw [tablesOf, h]
  rfl

/-- An expression that cannot be read has no tables. -/
theorem tablesOf_of_error {expression : String} {e : QueryError}
    (h : tableNames expression = .error e) : tablesOf expression = [] := by
  rw [tablesOf, h]
  rfl

end Column

open Column

/-- The tables that the column expressions of a comparison refer to. -/
def Comparison.tables (c : Comparison) : List String :=
  c.columns.flatMap tablesOf

/-- Only a condition in itself has the operator `custom`. -/
theorem Comparison.operator_eq_custom_iff (c : Comparison) :
    c.operator = .custom ↔ ∃ sql, c.test = .raw sql := by
  unfold operator
  constructor
  · intro h
    split at h
    case h_6 sql hraw => exact ⟨sql, hraw⟩
    all_goals cases h
  · rintro ⟨sql, hsql⟩
    rw [hsql]

/-- The tables that the column expressions of a criterion refer to. -/
def Criterion.tables (c : Criterion) : List String :=
  c.comparisons.flatMap Comparison.tables

/-- The tables of a condition are those of its columns, comparison by comparison. -/
theorem Criterion.tables_eq (c : Criterion) : c.tables = c.columnRefs.flatMap tablesOf := by
  rw [tables, columnRefs, List.flatMap_assoc]
  rfl

/-- The condition need not be read only where it is a condition in itself. -/
def Criterion.Readable (c : Criterion) : Prop :=
  ∀ comparison ∈ c.comparisons, comparison.operator ≠ .custom →
    ∀ expression ∈ comparison.columns, Column.Readable expression

/-- The column expressions of a join condition. -/
def Join.columns (join : Join) : List String :=
  (join.condition.map Criterion.columnRefs).getD []

/-- The tables that a join condition refers to besides the table that is joined. -/
def Join.tables (join : Join) : List String :=
  join.columns.flatMap fun column => (tablesOf column).filter (· != join.table)

namespace Criteria

/-- The criteria with more tables registered, each behind the others unless it was there. -/
def withTables (k : Criteria) (tables : List String) : Criteria :=
  { k with tables := k.tables.insertAll tables }

/-- Registering no tables changes nothing. -/
@[simp] theorem withTables_nil (k : Criteria) : k.withTables [] = k := rfl

/-- Tables registered in two goes are as those registered in one. -/
theorem withTables_append (k : Criteria) (xs ys : List String) :
    k.withTables (xs ++ ys) = (k.withTables xs).withTables ys := by
  simp only [withTables, UniqueList.insertAll, List.foldl_append]

variable {k k' : Criteria}

/-- An expression that was registered can be read, and its tables stand behind the others. -/
theorem of_register {expression : String} (h : k.register expression = .ok k') :
    Readable expression ∧ k' = k.withTables (tablesOf expression) := by
  obtain ⟨tables, htables, rfl⟩ := except_map_eq_ok_iff.mp h
  rw [tablesOf_eq htables]
  exact ⟨⟨tables, htables⟩, rfl⟩

/-- Where a name need not be qualified, an expression that cannot be read registers nothing and is
no error. -/
theorem registerIfQualified_eq (k : Criteria) (expression : String) :
    k.registerIfQualified expression = k.withTables (tablesOf expression) := by
  unfold registerIfQualified
  cases htables : tableNames expression with
  | ok tables => rw [tablesOf_eq htables, withTables]
  | error e => rw [tablesOf_of_error htables, withTables_nil]

/-- Where each item of a list has tables registered, all of them are registered in the order of the
list. -/
theorem of_foldlM {α : Type} {f : Criteria → α → Except QueryError Criteria} {P : α → Prop}
    {g : α → List String} (hf : ∀ k k' x, f k x = .ok k' → P x ∧ k' = k.withTables (g x))
    {xs : List α} (h : xs.foldlM f k = .ok k') :
    (∀ x ∈ xs, P x) ∧ k' = k.withTables (xs.flatMap g) := by
  induction xs generalizing k with
  | nil =>
    cases h
    simp
  | cons x xs ih =>
    rw [List.foldlM_cons] at h
    obtain ⟨k₁, hfirst, hrest⟩ := except_bind_eq_ok_iff.mp h
    -- The criteria change from item to item, so the induction is for all of them.
    obtain ⟨hx, rfl⟩ := hf k k₁ x hfirst
    obtain ⟨hxs, rfl⟩ := ih hrest
    refine ⟨?_, ?_⟩
    · intro y hy
      rcases List.mem_cons.mp hy with rfl | hy
      · exact hx
      · exact hxs y hy
    · rw [List.flatMap_cons, withTables_append]

/-- Expressions that were all registered can all be read, and leave their tables in the order of the
expressions. -/
theorem of_registerAll {expressions : List String} (h : expressions.foldlM register k = .ok k') :
    (∀ expression ∈ expressions, Readable expression) ∧
      k' = k.withTables (expressions.flatMap tablesOf) :=
  of_foldlM (f := register) (P := Readable) (g := tablesOf) (fun _ _ _ h => of_register h) h

/-- A comparison has the tables of its columns registered. Its columns have to be readable unless
its right side is a condition in itself. -/
theorem of_registerComparison {c : Comparison} (h : k.registerComparison c = .ok k') :
    (c.operator ≠ .custom → ∀ expression ∈ c.columns, Readable expression) ∧
      k' = k.withTables c.tables := by
  unfold registerComparison at h
  split at h
  · rename_i sql hraw
    -- A condition in itself: only its column is looked at, and that need not name a table.
    cases h
    have hcolumns : c.columns = [c.column] := by rw [Comparison.columns, hraw]
    refine ⟨fun hne => absurd (c.operator_eq_custom_iff.mpr ⟨sql, hraw⟩) hne, ?_⟩
    rw [registerIfQualified_eq, Comparison.tables, hcolumns, List.flatMap_singleton]
  · obtain ⟨hreadable, hk⟩ := of_registerAll h
    exact ⟨fun _ => hreadable, hk⟩

/-- A criterion has the tables of its comparisons registered, from left to right. -/
theorem of_registerCriterion {c : Criterion} (h : k.registerCriterion c = .ok k') :
    c.Readable ∧ k' = k.withTables c.tables :=
  of_foldlM (f := registerComparison) (g := Comparison.tables)
    (P := fun comparison => comparison.operator ≠ .custom →
      ∀ expression ∈ comparison.columns, Column.Readable expression)
    (fun _ _ _ h => of_registerComparison h) h

/-- A column of a join condition can be read, and registers its tables except the joined one. -/
theorem of_registerJoinColumn {table column : String}
    (h : registerJoinColumn table k column = .ok k') :
    Readable column ∧ k' = k.withTables ((tablesOf column).filter (· != table)) := by
  obtain ⟨tables, htables, rfl⟩ := except_map_eq_ok_iff.mp h
  rw [tablesOf_eq htables]
  exact ⟨⟨tables, htables⟩, rfl⟩

/-- A join condition has its tables registered except the one that is joined, and all its columns
have to be readable. -/
theorem of_registerJoinColumns {table : String} {columns : List String}
    (h : columns.foldlM (registerJoinColumn table) k = .ok k') :
    (∀ column ∈ columns, Readable column) ∧
      k' = k.withTables (columns.flatMap fun column => (tablesOf column).filter (· != table)) :=
  of_foldlM (f := registerJoinColumn table) (P := Readable)
    (g := fun column => (tablesOf column).filter (· != table))
    (fun _ _ _ h => of_registerJoinColumn h) h

end Criteria

end SqlSelect
