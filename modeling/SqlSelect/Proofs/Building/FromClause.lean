import SqlSelect.Proofs.Building.Steps
import SqlSelect.Proofs.Rendering.Statement

/-!
# `SqlSelect.Proofs.Building.FromClause`: every table is written, and none twice

The FROM list of a statement is read off the registered tables when the statement is written,
without a look at the expressions that stand in it. So each table that an expression refers to has
to be registered by then, or be joined.

* `Criteria.mem_expressions_of_ofSteps`: every expression of built criteria comes from a step, which
  has registered its tables.
* `Criteria.readable_of_ofSteps`: the expressions of built criteria can be read, except where a name
  need not be qualified.
* `Criteria.sourceTables_of_ofSteps`: the tables of the FROM list by the steps alone.
* `Criteria.fromClause_of_build`: the FROM clause of a written statement.
-/

set_option autoImplicit false

namespace SqlSelect

open Column

/-! ### The expressions of criteria -/

namespace Criterion

/-- Two conditions joined into one refer to the columns of the left one and then to those of the
right one, whether a group takes the other in or a new one is made. -/
theorem columnRefs_join (conjunction : Conjunction) (left right : Criterion) :
    (left.join conjunction right).columnRefs = left.columnRefs ++ right.columnRefs := by
  rw [columnRefs, comparisons_join, List.flatMap_append]
  rfl

/-- Two readable conditions joined into one are readable. -/
theorem Readable.join {conjunction : Conjunction} {left right : Criterion} (hl : left.Readable)
    (hr : right.Readable) : (left.join conjunction right).Readable := by
  intro comparison hcomparison
  rw [comparisons_join, List.mem_append] at hcomparison
  exact hcomparison.elim (hl comparison) (hr comparison)

end Criterion

namespace Criteria

/-- The expressions of the select list. -/
def selected (k : Criteria) : List String :=
  k.selectColumns.toList ++ k.namedColumns.entries.map Prod.snd

/-- The expressions of some criteria outside of joins. -/
def expressions (k : Criteria) : List String :=
  k.selected ++ (k.predicate.map Criterion.columnRefs).getD [] ++
    (k.having.map Criterion.columnRefs).getD [] ++ k.groupBy.toList ++
    k.orderBy.toList.map Order.column

/-- After a step, an expression was selected before or is selected by the step. -/
theorem mem_selected_effect {k : Criteria} {step : Step} {expression : String}
    (h : expression ∈ (step.effect k).selected) :
    expression ∈ k.selected ∨ expression ∈ step.selected? := by
  cases step with
  | select column =>
    simp only [Step.effect, selected, List.mem_append, UniqueList.mem_insert] at h ⊢
    rcases h with (h | rfl) | h
    · exact .inl (.inl h)
    · exact .inr rfl
    · exact .inl (.inr h)
  | selectAs name column =>
    rcases List.mem_append.mp h with h | h
    · exact .inl (List.mem_append_left _ h)
    · -- The new expression may have taken the place of one of the same name.
      obtain ⟨entry, hentry, rfl⟩ := List.mem_map.mp h
      rcases mem_putNamed hentry with rfl | hentry
      · exact .inr rfl
      · exact .inl (List.mem_append_right _ (List.mem_map_of_mem hentry))
  | _ => exact .inl h

/-- The column expressions of two conditions are those of the joined one. -/
theorem columnRefs_joinCondition (conjunction : Conjunction) (old : Option Criterion)
    (new : Criterion) :
    ((joinCondition conjunction old new).map Criterion.columnRefs).getD []
      = (old.map Criterion.columnRefs).getD [] ++ new.columnRefs := by
  cases old with
  | none => rfl
  | some old => exact Criterion.columnRefs_join conjunction old new

/-- An expression stands in one of the clauses. -/
theorem mem_expressions {k : Criteria} {expression : String} :
    expression ∈ k.expressions ↔
      expression ∈ k.selected ∨ expression ∈ (k.predicate.map Criterion.columnRefs).getD [] ∨
        expression ∈ (k.having.map Criterion.columnRefs).getD [] ∨
        expression ∈ k.groupBy.toList ∨ expression ∈ k.orderBy.toList.map Order.column := by
  simp only [expressions, List.mem_append, or_assoc]

/-- A step that selects an expression leaves the other clauses alone. -/
theorem mem_expressions_selected {k k' : Criteria} {step : Step} {expression : String}
    (hselected : expression ∈ k'.selected → expression ∈ k.selected ∨ expression ∈ step.selected?)
    (hothers : k' = { k with
      selectColumns := k'.selectColumns, namedColumns := k'.namedColumns })
    (h : expression ∈ k'.expressions) :
    expression ∈ k.expressions ∨ expression ∈ step.selected? := by
  rw [mem_expressions] at h ⊢
  rcases h with h | h
  · exact (hselected h).imp .inl id
  · rw [hothers] at h
    exact .inl (.inr h)

/-- A condition that is joined to the predicate brings its columns only. -/
theorem mem_expressions_condition {k : Criteria} {joins : List Join}
    (condition? : Option (Conjunction × Criterion)) {expression : String}
    (h : expression ∈ expressions { k with
      joins
      predicate := match condition? with
        | some (conjunction, c) => joinCondition conjunction k.predicate c
        | none => k.predicate }) :
    expression ∈ k.expressions ∨
      expression ∈ (condition?.map fun (_, c) => c.columnRefs).getD [] := by
  cases condition? with
  | none => exact .inl h
  | some p =>
    rw [mem_expressions] at h ⊢
    simp only [columnRefs_joinCondition, List.mem_append] at h
    simp only [Option.map_some, Option.getD_some]
    tauto

/-- After a step, an expression was there before or is one of the step's. -/
theorem mem_expressions_effect {k : Criteria} {step : Step} {expression : String}
    (h : expression ∈ (step.effect k).expressions) :
    expression ∈ k.expressions ∨ expression ∈ step.expressions := by
  cases step with
  | select | selectAs =>
    refine (mem_expressions_selected mem_selected_effect rfl h).imp id fun hnew => ?_
    cases hnew
    simp [Step.expressions, Step.selected?]
  | andHaving c =>
    rw [mem_expressions] at h ⊢
    simp only [Step.effect, columnRefs_joinCondition, List.mem_append] at h
    simp only [Step.expressions]
    tauto
  | addGroupBy column =>
    rw [mem_expressions] at h ⊢
    simp only [Step.effect, UniqueList.mem_insert] at h
    simp only [Step.expressions, List.mem_singleton]
    tauto
  | addOrderBy column direction =>
    rw [mem_expressions] at h ⊢
    simp only [Step.effect, List.mem_map, UniqueList.mem_insert] at h ⊢
    rcases h with h | h | h | h | ⟨order, horder | rfl, rfl⟩
    · exact .inl (.inl h)
    · exact .inl (.inr (.inl h))
    · exact .inl (.inr (.inr (.inl h)))
    · exact .inl (.inr (.inr (.inr (.inl h))))
    · exact .inl (.inr (.inr (.inr (.inr ⟨order, horder, rfl⟩))))
    · exact .inr (by simp [Step.expressions])
  -- The steps that add a condition or a join.
  | andWhere c => exact mem_expressions_condition (some (.and, c)) h
  | orWhere c => exact mem_expressions_condition (some (.or, c)) h
  | whereValue column operator value =>
    exact mem_expressions_condition (Step.condition? (.whereValue column operator value)) h
  | whereEq column value =>
    exact mem_expressions_condition (Step.condition? (.whereEq column value)) h
  | _ => exact .inl h

/-- Every expression of built criteria was given by a step. -/
theorem mem_expressions_of_ofSteps {steps : List Step} {k : Criteria} (h : ofSteps steps = .ok k) :
    ∀ expression ∈ k.expressions, ∃ step ∈ steps, expression ∈ step.expressions := by
  refine of_ofSteps (P := fun steps k => ∀ expression ∈ k.expressions,
    ∃ step ∈ steps, expression ∈ step.expressions) ?_ ?_ h
  · intro expression hexpression
    cases hexpression
  · intro steps step k ih _ expression hexpression
    rcases mem_expressions_effect hexpression with hold | hnew
    · obtain ⟨earlier, hearlier, hmem⟩ := ih expression hold
      exact ⟨earlier, List.mem_append_left _ hearlier, hmem⟩
    · exact ⟨step, by simp, hnew⟩

/-! ### Readable expressions -/

/-- The expressions that have to name their tables, or have a wildcard, do so. -/
structure Readable (k : Criteria) : Prop where
  selected : ∀ expression ∈ k.selected, Column.Readable expression
  joins : ∀ join ∈ k.joins, ∀ column ∈ join.columns, Column.Readable column
  predicate : ∀ c ∈ k.predicate, c.Readable
  having : ∀ c ∈ k.having, c.Readable

/-- Nothing is asked of criteria without expressions. -/
theorem readable_empty : empty.Readable where
  selected _ h := by cases h
  joins _ h := by cases h
  predicate _ h := by cases h
  having _ h := by cases h

/-- A clause that is readable stays so when a readable condition joins it, and the first condition
of a clause is the whole of it. -/
theorem readable_joinCondition {conjunction : Conjunction} {old : Option Criterion}
    {new : Criterion} (hold : ∀ c ∈ old, c.Readable) (hnew : new.Readable) :
    ∀ c ∈ joinCondition conjunction old new, c.Readable := by
  rintro _ ⟨⟩
  cases old with
  | none => exact hnew
  | some old => exact (hold old rfl).join hnew

/-- A step that succeeds adds readable expressions to readable ones. -/
theorem Readable.effect {k : Criteria} {step : Step} (hk : k.Readable) (hstep : step.Readable) :
    (step.effect k).Readable where
  selected expression h :=
    (mem_selected_effect h).elim (hk.selected expression) (hstep.selected expression)
  joins join h := by
    rw [Step.joins_effect, List.mem_append, Option.mem_toList] at h
    exact h.elim (hk.joins join) (hstep.join join)
  -- A condition joins what was there, and both are readable.
  predicate := by
    rw [Step.predicate_effect]
    cases hcondition : step.condition? with
    | none => exact hk.predicate
    | some p => exact readable_joinCondition hk.predicate (hstep.condition p hcondition)
  having := by
    rw [Step.having_effect]
    cases hhaving : step.having? with
    | none => exact hk.having
    | some c => exact readable_joinCondition hk.having (hstep.having c hhaving)

/-- The expressions of built criteria can be read, except where a name need not be qualified. -/
theorem readable_of_ofSteps {steps : List Step} {k : Criteria} (h : ofSteps steps = .ok k) :
    k.Readable := by
  refine of_ofSteps (P := fun _ k => k.Readable) readable_empty ?_ h
  intro _ step k ih hstep
  have hregistered : (k.withTables step.tables).Readable :=
    ⟨ih.selected, ih.joins, ih.predicate, ih.having⟩
  exact hregistered.effect hstep

/-! ### The tables by the steps -/

/-- The tables of the FROM list after some steps: those that are not joined, and among them those
that a join condition mentions behind the others. -/
def sourcesBy (steps : List Step) : List String :=
  let listed := (registeredBy steps).filter fun table => table ∉ (joinsBy steps).map Join.table
  let mentioned := (joinsBy steps).flatMap fun join => join.columns.flatMap tablesOf
  listed.filter (· ∉ mentioned) ++ listed.filter (· ∈ mentioned)

/-- The tables of the FROM list are the registered ones that are not joined; whether a join mentions
them only decides on their order. -/
theorem mem_sourcesBy {steps : List Step} {table : String} :
    table ∈ sourcesBy steps ↔
      table ∈ registeredBy steps ∧ table ∉ (joinsBy steps).map Join.table := by
  simp only [sourcesBy, List.mem_append, List.mem_filter, decide_eq_true_eq]
  tauto

/-- No table stands twice in the FROM list, as the mentioned ones and the others have none in
common. -/
theorem nodup_sourcesBy (steps : List Step) : (sourcesBy steps).Nodup := by
  unfold sourcesBy
  have hlisted := (nodup_registeredBy steps).filter
    fun table => decide (table ∉ (joinsBy steps).map Join.table)
  refine List.nodup_append.mpr ⟨hlisted.filter _, hlisted.filter _, ?_⟩
  -- A table is mentioned by a join condition or is not.
  rintro x hx y hy rfl
  simp only [List.mem_filter, decide_eq_true_eq] at hx hy
  exact hx.2 hy.2

/-- The tables of the FROM list, which are read off the criteria, are those of the steps. -/
theorem sourceTables_of_ofSteps {steps : List Step} {k : Criteria} (h : ofSteps steps = .ok k) :
    k.sourceTables = sourcesBy steps := by
  have hsources : k.joinSources
      = (joinsBy steps).flatMap fun join => join.columns.flatMap tablesOf := by
    rw [← joins_of_ofSteps h]
    exact List.flatMap_assoc
  have htargets : k.joinTargets = (joinsBy steps).map Join.table := by
    rw [← joins_of_ofSteps h]
    rfl
  unfold sourceTables sourcesBy
  rw [hsources, htargets, tables_of_ofSteps h]
  generalize (joinsBy steps).map Join.table = targets
  generalize ((joinsBy steps).flatMap fun join => join.columns.flatMap tablesOf) = mentioned
  simp

/-! ### Written tables and joins -/

/-- A step registers the tables of its expressions. -/
theorem mem_tables_of_mem_expressions {step : Step} {expression table : String}
    (hexpression : expression ∈ step.expressions) (htable : table ∈ tablesOf expression) :
    table ∈ step.tables := by
  have hmem : table ∈ step.expressions.flatMap tablesOf :=
    List.mem_flatMap.mpr ⟨expression, hexpression, htable⟩
  cases step with
  | addTable | setDefaultTable => simp [Step.expressions, Step.selected?, Step.condition?] at hmem
  | _ => exact List.mem_append_right _ hmem

/-- A step registers the tables of its join condition. -/
theorem mem_tables_of_join {step : Step} {join : Join} (hjoin : step.join? = some join)
    {table : String} (htable : table ∈ join.tables) : table ∈ step.tables := by
  have hmem : table ∈ (step.join?.map Join.tables).getD [] := by
    rw [hjoin]
    exact htable
  cases step with
  | addTable | setDefaultTable => cases hjoin
  | _ => exact List.mem_append_left _ hmem

/-- A table that an expression of built criteria refers to is registered or joined. -/
theorem mem_registeredBy_of_expression {steps : List Step} {k : Criteria}
    (h : ofSteps steps = .ok k) {expression table : String}
    (hexpression : expression ∈ k.expressions) (htable : table ∈ tablesOf expression) :
    table ∈ registeredBy steps := by
  obtain ⟨step, hstep, hmem⟩ := mem_expressions_of_ofSteps h expression hexpression
  exact mem_registeredBy.mpr ⟨step, hstep, mem_tables_of_mem_expressions hmem htable⟩

/-- A table that a join condition refers to is registered, or it is the table that is joined. -/
theorem mem_registeredBy_of_join {steps : List Step} {join : Join} (hjoin : join ∈ joinsBy steps)
    {column table : String} (hcolumn : column ∈ join.columns) (htable : table ∈ tablesOf column) :
    table ∈ registeredBy steps ∨ table = join.table := by
  by_cases htarget : table = join.table
  · exact .inr htarget
  · -- The step of the join has registered all tables of its condition but the one that is joined.
    obtain ⟨step, hstep, hadds⟩ := List.mem_filterMap.mp hjoin
    have hmem : table ∈ join.tables := by
      refine List.mem_flatMap.mpr ⟨column, hcolumn, List.mem_filter.mpr ⟨htable, ?_⟩⟩
      simpa using htarget
    exact .inl (mem_registeredBy.mpr ⟨step, hstep, mem_tables_of_join hadds hmem⟩)

/-- A table that built criteria refer to is in the FROM list or joined. -/
theorem mem_sourcesBy_or_joined {steps : List Step} {k : Criteria} (h : ofSteps steps = .ok k)
    {expression table : String}
    (hexpression : expression ∈ k.expressions ++ (joinsBy steps).flatMap Join.columns)
    (htable : table ∈ tablesOf expression) :
    table ∈ sourcesBy steps ∨ table ∈ (joinsBy steps).map Join.table := by
  have hregistered : table ∈ registeredBy steps ∨ table ∈ (joinsBy steps).map Join.table := by
    rcases List.mem_append.mp hexpression with hexpression | hcolumn
    · exact .inl (mem_registeredBy_of_expression h hexpression htable)
    · obtain ⟨join, hjoin, hcolumn⟩ := List.mem_flatMap.mp hcolumn
      refine (mem_registeredBy_of_join hjoin hcolumn htable).imp id fun htarget => ?_
      exact List.mem_map.mpr ⟨join, hjoin, htarget.symm⟩
  rw [mem_sourcesBy]
  tauto

/-- The text of a join: its kind, the entry of its table, and its condition, whose values have the
numbers behind `used`. -/
def joinText (s : Style) (mode : RenderMode) (join : Join) (entry : String) (used : Nat) : String :=
  join.joinType.sql ++ " " ++ entry ++ match join.condition with
    | some condition => " ON " ++ (condition.sql s).render s.dialect mode used
    | none => ""

/-- The written joins are those of the criteria, one after the other. -/
theorem forall₂_renderAll_joins {k : Criteria} {s : Style} {mode : RenderMode} {joins : List Join}
    {items : List Sql}
    (h : List.Forall₂ (fun join item => k.joinEntry s join = .ok item) joins items) (used : Nat) :
    List.Forall₂ (fun join text => ∃ entry used, k.tableEntry s join.table = .ok entry ∧
        text = joinText s mode join entry used)
      joins (Sql.renderAll s.dialect mode used items) := by
  induction h generalizing used with
  | nil => exact .nil
  | cons hfirst _ ih =>
    rename_i join item _ _ _
    -- Each join goes on with the number behind the values of those in front, so `used` is general.
    refine .cons ?_ (ih _)
    obtain ⟨entry, hentry, hitem⟩ := except_map_eq_ok_iff.mp hfirst
    refine ⟨entry, used, hentry, ?_⟩
    subst hitem
    unfold joinText
    cases join.condition with
    | none => simp
    | some condition => simp [Sql.render_append, String.append_assoc]

/-- The FROM clause of a statement, by the steps that have built the criteria. -/
structure WritesFrom (steps : List Step) (k : Criteria) (s : Style) (mode : RenderMode)
    (q : Query String) : Prop where
  registered : k.tables.toList = registeredBy steps
  readable : k.Readable
  /-- The tables that an expression refers to are in the FROM list or joined. -/
  complete : ∀ expression ∈ k.expressions ++ (joinsBy steps).flatMap Join.columns,
    ∀ tables, tableNames expression = .ok tables → ∀ table ∈ tables,
      table ∈ sourcesBy steps ∨ table ∈ (joinsBy steps).map Join.table
  nodup : (sourcesBy steps).Nodup
  /-- Each entry of the FROM list is for one table, in the order of `sourcesBy`. -/
  sources : List.Forall₂ (fun table entry => k.tableEntry s table = .ok entry) (sourcesBy steps)
    q.sources
  /-- Each join is for one that a step has added, in the order of the steps. -/
  joins : List.Forall₂ (fun join text => ∃ entry used, k.tableEntry s join.table = .ok entry ∧
    text = joinText s mode join entry used) (joinsBy steps) q.joins

/-- In the statement of built criteria no table is missing, and none is in the FROM list twice. How
the dialect quotes the tables and writes the conditions of the joins makes no difference. -/
theorem fromClause_of_build {steps : List Step} {k : Criteria} (hsteps : ofSteps steps = .ok k)
    {d : Dialect} {mode : RenderMode} {quote : Bool} {q : Query String} {values : List SqlValue}
    (hbuild : k.build d mode quote = .ok (q, values)) :
    WritesFrom steps k (k.style d quote) mode q := by
  rw [build_eq] at hbuild
  obtain ⟨q₀, hquery, hrender⟩ := except_map_eq_ok_iff.mp hbuild
  cases hrender
  -- What is written is the query by the clauses; the tables and the joins in it come from the
  -- steps.
  obtain ⟨hsources, hjoins, -, -⟩ := of_query hquery
  rw [sourceTables_of_ofSteps hsteps] at hsources
  rw [joins_of_ofSteps hsteps] at hjoins
  exact {
    registered := tables_of_ofSteps hsteps
    readable := readable_of_ofSteps hsteps
    complete := by
      intro expression hexpression tables htables table htable
      rw [← tablesOf_eq htables] at htable
      exact mem_sourcesBy_or_joined hsteps hexpression htable
    nodup := nodup_sourcesBy steps
    sources := mapM_eq_ok_iff.mp hsources
    joins := forall₂_renderAll_joins (mapM_eq_ok_iff.mp hjoins) 0 }

/-- Steps that name tables in a select list, in a join condition and by themselves. -/
def joinedSteps : List Step :=
  [.select "a.x", .selectAs "n" "UPPER(c.z)",
    .joinTable "b" .left (.comparison ⟨"a.x", .relation .eq (.column "b.y"), false⟩),
    .addTable "d", .crossJoin "e"]

/-- Steps with a join on a condition, a cross join, a table of its own and an expression: the
mentioned table `a` comes last, next to the join. -/
theorem fromClause_of_build_joinedSteps :
    ∃ k q values, ofSteps joinedSteps = .ok k ∧
      k.build Backend.postgres.dialect .parameterized false = .ok (q, values) ∧
      q.text = "SELECT a.x, UPPER(c.z) AS n FROM c, d, a LEFT JOIN b ON a.x=b.y CROSS JOIN e" ∧
      WritesFrom joinedSteps k (k.style Backend.postgres.dialect false) .parameterized q := by
  have hrun : ((ofSteps joinedSteps).bind fun k =>
      (k.build Backend.postgres.dialect .parameterized false).map fun written => written.1.text)
        = .ok "SELECT a.x, UPPER(c.z) AS n FROM c, d, a LEFT JOIN b ON a.x=b.y CROSS JOIN e" := by
    decide +kernel
  obtain ⟨k, hsteps, hrun⟩ := except_bind_eq_ok_iff.mp hrun
  obtain ⟨⟨q, values⟩, hbuild, htext⟩ := except_map_eq_ok_iff.mp hrun
  exact ⟨k, q, values, hsteps, hbuild, htext, fromClause_of_build hsteps hbuild⟩

/-- The text of a condition in itself does not count: of `a.x` beside the text `b.y>1` only `a` is
registered, and `b` is missing from the statement. -/
theorem fromClause_omits_raw_text :
    ∃ k q values, ofSteps [.whereValue "a.x" .custom (.string "b.y>1")] = .ok k ∧
      k.build Backend.postgres.dialect .inline false = .ok (q, values) ∧
      tableNames "b.y>1" = .ok ["b"] ∧ q.sources = ["a"] ∧ q.joins = [] ∧
      q.text = "SELECT * FROM a WHERE b.y>1" := by
  have hrun : ((ofSteps [.whereValue "a.x" .custom (.string "b.y>1")]).bind fun k =>
      (k.build Backend.postgres.dialect .inline false).map fun written =>
        (written.1.sources, written.1.joins, written.1.text))
        = .ok (["a"], [], "SELECT * FROM a WHERE b.y>1") := by
    decide +kernel
  obtain ⟨k, hsteps, hrun⟩ := except_bind_eq_ok_iff.mp hrun
  obtain ⟨⟨q, values⟩, hbuild, hq⟩ := except_map_eq_ok_iff.mp hrun
  simp only [Prod.mk.injEq] at hq
  exact ⟨k, q, values, hsteps, hbuild, by decide +kernel, hq.1, hq.2.1, hq.2.2⟩

end Criteria

end SqlSelect
