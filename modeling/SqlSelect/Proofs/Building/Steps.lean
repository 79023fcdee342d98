import Mathlib.Data.List.Induction
import SqlSelect.Criteria.Step
import SqlSelect.Proofs.Building.Registration

/-!
# `SqlSelect.Proofs.Building.Steps`: what a step of building can do

A step that succeeds registers some tables and then changes the criteria in its way. Neither depends
on the criteria: `Step.tables` are the tables, `Step.join?` and `Step.condition?` the join and the
condition that the step adds, and `Step.effect` is the change.

* `Step.of_apply`: all that a successful step does, and what has to be readable for it.
* `Criteria.of_ofSteps`: what every step keeps is so after a run.
* `Criteria.joins_of_ofSteps`, `Criteria.predicate_of_ofSteps`, `Criteria.tables_of_ofSteps`: the
  joins, the WHERE clause and the tables after a run.
-/

set_option autoImplicit false

namespace SqlSelect

open Column

namespace Step

/-- The join that a step adds. -/
def join? : Step → Option Join
  | joinTable table joinType condition => some ⟨joinType, table, some condition⟩
  | joinColumns left right joinType => (tablesOf right).head?.map fun table =>
    ⟨joinType, table, some (.comparison ⟨left, .relation .eq (.column right), false⟩)⟩
  | crossJoin table => some ⟨.cross, table, none⟩
  | _ => none

/-- The condition that a step joins to the WHERE clause, with the word between them. -/
def condition? : Step → Option (Conjunction × Criterion)
  | andWhere c => some (.and, c)
  | orWhere c => some (.or, c)
  | whereValue column operator value =>
    (Criterion.withValue column operator value).toOption.map fun c => (.and, c)
  | whereEq column value =>
    (Criterion.withValue column (.relation .eq) value).toOption.map fun c => (.and, c)
  | _ => none

/-- The condition that a step joins to the HAVING clause. -/
def having? : Step → Option Criterion
  | andHaving c => some c
  | _ => none

/-- The expression that a step puts into the select list. -/
def selected? : Step → Option String
  | select column => some column
  | selectAs _ expression => some expression
  | _ => none

/-- The expressions of a step outside of joins. -/
def expressions : Step → List String
  | addGroupBy column | addOrderBy column _ => [column]
  | andHaving c => c.columnRefs
  | step => step.selected?.toList ++ (step.condition?.map fun (_, c) => c.columnRefs).getD []

/-- The tables that a step registers. -/
def tables : Step → List String
  | setDefaultTable table | addTable table => [table]
  | step => (step.join?.map Join.tables).getD [] ++ step.expressions.flatMap tablesOf

/-- What a step changes besides registering tables. -/
def effect (k : Criteria) : Step → Criteria
  | select column => { k with selectColumns := k.selectColumns.insert column }
  | selectAs name expression => { k with namedColumns := k.namedColumns.put name expression }
  | setDistinct on => k.setDistinct on
  | setDefaultTable table => { k with defaultTable := some table }
  | addTable _ => k
  | addAlias name table => k.addAlias name table
  | andHaving c => { k with having := Criteria.joinCondition .and k.having c }
  | setIgnoreCase on => k.setIgnoreCase on
  | addGroupBy column => { k with groupBy := k.groupBy.insert column }
  | addOrderBy column direction => { k with orderBy := k.orderBy.insert ⟨column, direction⟩ }
  | setLimit limit => { k with limit := some limit }
  | setOffset offset => { k with offset := some offset }
  | paginate page perPage =>
    { k with limit := some perPage, offset := some ((page - 1) * perPage) }
  | setDatabase name => k.setDatabase name
  | setQuoteIdentifiers on => k.setQuoteIdentifiers on
  | step => { k with
      joins := k.joins ++ step.join?.toList
      predicate := match step.condition? with
        | some (conjunction, c) => Criteria.joinCondition conjunction k.predicate c
        | none => k.predicate }

/-- What has to be readable for a step to succeed. -/
structure Readable (step : Step) : Prop where
  selected : ∀ expression ∈ step.selected?, Column.Readable expression := by rintro _ ⟨⟩
  join : ∀ join ∈ step.join?, ∀ column ∈ join.columns, Column.Readable column := by rintro _ ⟨⟩
  condition : ∀ p ∈ step.condition?, p.2.Readable := by rintro _ ⟨⟩
  having : ∀ c ∈ step.having?, c.Readable := by rintro _ ⟨⟩

end Step

namespace Criteria

variable {k k' : Criteria}

/-! ### One step -/

/-- A join that succeeds has only readable columns, raw conditions included, and stands behind the
other joins. -/
theorem of_joinTable {table : String} {joinType : JoinType} {condition : Criterion}
    (h : k.joinTable table joinType condition = .ok k') :
    (∀ column ∈ condition.columnRefs, Readable column) ∧
      k' = (k.withTables (Join.tables ⟨joinType, table, some condition⟩)).pushJoin
        ⟨joinType, table, some condition⟩ := by
  unfold joinTable at h
  split at h
  · cases h
  · obtain ⟨k₁, hregister, rfl⟩ := except_map_eq_ok_iff.mp h
    obtain ⟨hreadable, rfl⟩ := of_registerJoinColumns hregister
    exact ⟨hreadable, rfl⟩

/-- A join of two columns is the join of a table by a condition. -/
theorem of_joinColumns {left right : String} {joinType : JoinType}
    (h : k.joinColumns left right joinType = .ok k') :
    ∃ table, (tablesOf right).head? = some table ∧
      k.joinTable table joinType (.comparison ⟨left, .relation .eq (.column right), false⟩)
        = .ok k' := by
  obtain ⟨table?, htable, h⟩ := except_bind_eq_ok_iff.mp h
  obtain ⟨tables, htables, hhead⟩ := except_map_eq_ok_iff.mp htable
  cases table? with
  | none => cases h
  | some table =>
    refine ⟨table, ?_, h⟩
    rw [tablesOf_eq htables, hhead]

/-- A condition that AND takes in is readable, and registers the tables of its comparisons. -/
theorem of_andWhere {c : Criterion} (h : k.andWhere c = .ok k') :
    c.Readable ∧ k' = { k.withTables c.tables with
      predicate := joinCondition .and k.predicate c } := by
  obtain ⟨k₁, hregister, rfl⟩ := except_map_eq_ok_iff.mp h
  obtain ⟨hreadable, rfl⟩ := of_registerCriterion hregister
  exact ⟨hreadable, rfl⟩

/-- The same for OR: the two differ in the conjunction alone. -/
theorem of_orWhere {c : Criterion} (h : k.orWhere c = .ok k') :
    c.Readable ∧ k' = { k.withTables c.tables with
      predicate := joinCondition .or k.predicate c } := by
  obtain ⟨k₁, hregister, rfl⟩ := except_map_eq_ok_iff.mp h
  obtain ⟨hreadable, rfl⟩ := of_registerCriterion hregister
  exact ⟨hreadable, rfl⟩

/-- Asking for a value is asking for the comparison with it. -/
theorem of_whereValue {column : String} {operator : Operator} {value : SqlValue}
    (h : k.whereValue column operator value = .ok k') :
    ∃ c, Criterion.withValue column operator value = .ok c ∧ k.andWhere c = .ok k' :=
  except_bind_eq_ok_iff.mp h

/-- A limit that is accepted replaces the one before. -/
theorem of_setLimit {limit : Int} (h : k.setLimit limit = .ok k') :
    k' = { k with limit := some limit } := by
  unfold setLimit at h
  split at h <;> cases h
  rfl

/-- An offset that is accepted replaces the one before. -/
theorem of_setOffset {offset : Int} (h : k.setOffset offset = .ok k') :
    k' = { k with offset := some offset } := by
  unfold setOffset at h
  split at h <;> cases h
  rfl

/-- A page that is accepted sets the limit and the offset together. -/
theorem of_paginate {page perPage : Int} (h : k.paginate page perPage = .ok k') :
    k' = { k with limit := some perPage, offset := some ((page - 1) * perPage) } := by
  unfold paginate at h
  split at h
  · cases h
  · dsimp only at h
    split at h
    · cases h
    · obtain ⟨k₁, hlimit, hoffset⟩ := except_bind_eq_ok_iff.mp h
      rw [of_setOffset hoffset, of_setLimit hlimit]

end Criteria

namespace Step

variable {k k' : Criteria}

/-- A step that succeeds registers its tables and has its effect, and what it was given is
readable. -/
theorem of_apply {step : Step} (h : step.apply k = .ok k') :
    step.Readable ∧ k' = step.effect (k.withTables step.tables) := by
  cases step with
  | select | selectAs =>
    obtain ⟨k₁, hregister, rfl⟩ := except_map_eq_ok_iff.mp h
    obtain ⟨hreadable, rfl⟩ := Criteria.of_register hregister
    refine ⟨{ selected := by rintro _ ⟨⟩; exact hreadable }, ?_⟩
    simp [effect, tables, join?, expressions, selected?, condition?, Criteria.withTables]
  | joinTable table joinType condition =>
    obtain ⟨hreadable, rfl⟩ := Criteria.of_joinTable h
    refine ⟨{ join := by rintro _ ⟨⟩; exact hreadable }, ?_⟩
    simp [effect, tables, join?, expressions, selected?, condition?, Criteria.pushJoin]
  | joinColumns left right joinType =>
    obtain ⟨table, htable, h⟩ := Criteria.of_joinColumns h
    obtain ⟨hreadable, rfl⟩ := Criteria.of_joinTable h
    -- The table that is joined is the one of the right column.
    have hjoin : join? (.joinColumns left right joinType) = some ⟨joinType, table,
        some (.comparison ⟨left, .relation .eq (.column right), false⟩)⟩ := by
      rw [join?, htable]
      rfl
    refine ⟨{ join := by rw [hjoin]; rintro _ ⟨⟩; exact hreadable }, ?_⟩
    simp [effect, tables, hjoin, expressions, selected?, condition?, Criteria.pushJoin]
  | crossJoin table =>
    cases h
    refine ⟨{ join := by rintro _ ⟨⟩ _ hcolumn; cases hcolumn }, ?_⟩
    simp [effect, tables, join?, expressions, selected?, condition?, Criteria.crossJoin,
      Criteria.pushJoin, Join.tables, Join.columns]
  | andWhere c =>
    obtain ⟨hreadable, rfl⟩ := Criteria.of_andWhere h
    refine ⟨{ condition := by rintro _ ⟨⟩; exact hreadable }, ?_⟩
    simp [effect, tables, join?, expressions, selected?, condition?, Criteria.withTables,
      Criterion.tables_eq]
  | orWhere c =>
    obtain ⟨hreadable, rfl⟩ := Criteria.of_orWhere h
    refine ⟨{ condition := by rintro _ ⟨⟩; exact hreadable }, ?_⟩
    simp [effect, tables, join?, expressions, selected?, condition?, Criteria.withTables,
      Criterion.tables_eq]
  | whereValue column operator value =>
    obtain ⟨c, hc, h⟩ := Criteria.of_whereValue h
    obtain ⟨hreadable, rfl⟩ := Criteria.of_andWhere h
    -- The comparison can be built, since the step has succeeded.
    have hcondition : condition? (.whereValue column operator value) = some (.and, c) := by
      rw [condition?, hc]
      rfl
    refine ⟨{ condition := by rw [hcondition]; rintro _ ⟨⟩; exact hreadable }, ?_⟩
    simp [effect, tables, join?, expressions, selected?, hcondition, Criteria.withTables,
      Criterion.tables_eq]
  | whereEq column value =>
    obtain ⟨c, hc, h⟩ := Criteria.of_whereValue h
    obtain ⟨hreadable, rfl⟩ := Criteria.of_andWhere h
    have hcondition : condition? (.whereEq column value) = some (.and, c) := by
      rw [condition?, hc]
      rfl
    refine ⟨{ condition := by rw [hcondition]; rintro _ ⟨⟩; exact hreadable }, ?_⟩
    simp [effect, tables, join?, expressions, selected?, hcondition, Criteria.withTables,
      Criterion.tables_eq]
  | andHaving c =>
    obtain ⟨k₁, hregister, rfl⟩ := except_map_eq_ok_iff.mp h
    obtain ⟨hreadable, rfl⟩ := Criteria.of_registerCriterion hregister
    refine ⟨{ having := by rintro _ ⟨⟩; exact hreadable }, ?_⟩
    simp [effect, tables, join?, expressions, Criteria.withTables, Criterion.tables_eq]
  | addGroupBy column =>
    cases h
    refine ⟨{}, ?_⟩
    rw [Criteria.addGroupBy, Criteria.registerIfQualified_eq]
    simp [effect, tables, join?, expressions]
  | addOrderBy column direction =>
    cases h
    refine ⟨{}, ?_⟩
    rw [Criteria.addOrderBy, Criteria.registerIfQualified_eq]
    simp [effect, tables, join?, expressions]
  -- The bounds of the rows are checked, and nothing is registered.
  | setLimit limit => exact ⟨{}, Criteria.of_setLimit h⟩
  | setOffset offset => exact ⟨{}, Criteria.of_setOffset h⟩
  | paginate page perPage => exact ⟨{}, Criteria.of_paginate h⟩
  | _ =>
    cases h
    exact ⟨{}, rfl⟩

/-! ### The clauses after a step -/

/-- A step adds its join behind the others, if it has one. -/
@[simp] theorem joins_effect (k : Criteria) (step : Step) :
    (step.effect k).joins = k.joins ++ step.join?.toList := by
  cases step <;> simp [effect, join?, Criteria.setDistinct, Criteria.addAlias,
    Criteria.setIgnoreCase, Criteria.setDatabase, Criteria.setQuoteIdentifiers]

/-- What a step changes beside registering tables leaves the tables alone. -/
@[simp] theorem tables_effect (k : Criteria) (step : Step) :
    (step.effect k).tables = k.tables := by
  cases step <;> rfl

/-- The WHERE clause changes by the condition of the step only. -/
@[simp] theorem predicate_effect (k : Criteria) (step : Step) :
    (step.effect k).predicate = match step.condition? with
      | some (conjunction, c) => Criteria.joinCondition conjunction k.predicate c
      | none => k.predicate := by
  cases step <;> rfl

/-- The HAVING clause changes by the condition on groups only. -/
@[simp] theorem having_effect (k : Criteria) (step : Step) :
    (step.effect k).having = match step.having? with
      | some c => Criteria.joinCondition .and k.having c
      | none => k.having := by
  cases step <;> rfl

end Step

/-! ### A run -/

namespace Criteria

/-- What a step keeps is so after a run. -/
theorem of_ofSteps {P : List Step → Criteria → Prop} (hempty : P [] empty)
    (hstep : ∀ steps step k, P steps k → step.Readable →
      P (steps ++ [step]) (step.effect (k.withTables step.tables)))
    {steps : List Step} {k : Criteria} (h : ofSteps steps = .ok k) : P steps k := by
  induction steps using List.reverseRecOn generalizing k with
  | nil =>
    cases h
    exact hempty
  | append_singleton steps step ih =>
    -- The last step was applied to the result of a shorter run.
    rw [ofSteps, List.foldlM_append] at h
    obtain ⟨k₁, hsteps, hlast⟩ := except_bind_eq_ok_iff.mp h
    rw [List.foldlM_cons] at hlast
    obtain ⟨k₂, happly, hk⟩ := except_bind_eq_ok_iff.mp hlast
    cases hk
    obtain ⟨hreadable, rfl⟩ := Step.of_apply happly
    exact hstep steps step k₁ (ih hsteps) hreadable

/-- The tables that steps register, in the order of their first registration. -/
def registeredBy (steps : List Step) : List String :=
  (steps.flatMap Step.tables).eraseDups

/-- The joins that steps add, in their order. -/
def joinsBy (steps : List Step) : List Join :=
  steps.filterMap Step.join?

/-- The conditions that steps join to the WHERE clause, each with the word in front of it. -/
def conditionsBy (steps : List Step) : List (Conjunction × Criterion) :=
  steps.filterMap Step.condition?

/-- One more step adds its join, if it has one. -/
theorem joinsBy_append_singleton (steps : List Step) (step : Step) :
    joinsBy (steps ++ [step]) = joinsBy steps ++ step.join?.toList := by
  cases h : step.join? <;> simp [joinsBy, h]

/-- One more step adds its condition, if it has one. -/
theorem conditionsBy_append_singleton (steps : List Step) (step : Step) :
    conditionsBy (steps ++ [step]) = conditionsBy steps ++ step.condition?.toList := by
  cases h : step.condition? <;> simp [conditionsBy, h]

variable {steps : List Step} {k : Criteria}

/-- The joins after a run are those of its steps, in their order. -/
theorem joins_of_ofSteps (h : ofSteps steps = .ok k) : k.joins = joinsBy steps := by
  refine of_ofSteps (P := fun steps k => k.joins = joinsBy steps) rfl ?_ h
  intro steps step k ih _
  rw [Step.joins_effect, joinsBy_append_singleton, ← ih]
  rfl

/-- The condition of the WHERE clause is put together in the order of the steps. -/
theorem predicate_of_ofSteps (h : ofSteps steps = .ok k) :
    k.predicate = (conditionsBy steps).foldl (fun old p => joinCondition p.1 old p.2) none := by
  refine of_ofSteps (P := fun steps k => k.predicate
    = (conditionsBy steps).foldl (fun old p => joinCondition p.1 old p.2) none) rfl ?_ h
  intro steps step k ih _
  rw [Step.predicate_effect, conditionsBy_append_singleton, List.foldl_append, ← ih]
  cases step.condition? <;> rfl

/-- The tables after a run are those of its steps, each at the place where it came first. -/
theorem tables_of_ofSteps (h : ofSteps steps = .ok k) : k.tables.toList = registeredBy steps := by
  rw [registeredBy, ← UniqueList.toList_ofList]
  refine congrArg UniqueList.toList (of_ofSteps
    (P := fun steps k => k.tables = UniqueList.ofList (steps.flatMap Step.tables)) rfl ?_ h)
  intro steps step k ih _
  rw [Step.tables_effect, withTables, ih, List.flatMap_append, List.flatMap_singleton]
  simp only [UniqueList.ofList, UniqueList.insertAll, List.foldl_append]

/-- A table that a step registers is registered once. -/
theorem nodup_registeredBy (steps : List Step) : (registeredBy steps).Nodup := by
  rw [registeredBy, ← UniqueList.toList_ofList]
  exact UniqueList.nodup _

/-- A table is registered after a run exactly if some step registers it; no step takes one away. -/
theorem mem_registeredBy {table : String} :
    table ∈ registeredBy steps ↔ ∃ step ∈ steps, table ∈ step.tables := by
  rw [registeredBy, List.mem_eraseDups, List.mem_flatMap]

end Criteria

end SqlSelect
