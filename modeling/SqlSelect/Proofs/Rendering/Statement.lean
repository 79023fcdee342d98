import SqlSelect.Criteria.Statement
import SqlSelect.Proofs.Except
import SqlSelect.Proofs.Rendering.Writer

/-!
# `SqlSelect.Proofs.Rendering.Statement`: writing a statement

`Criteria.build` writes a query clause by clause. `Criteria.query` is the same query with the values
still in it, and `Query.render` puts literals or placeholders in their places.

* `Criteria.build_eq`: in either mode, what `build` writes is the rendered `query`, and the two
  fail together.
* `Query.text_render`: the statement of a rendered query is the rendered `Query.sql`, in which the
  clauses stand one behind the other. So the placeholders are numbered in the order of the text.
-/

set_option autoImplicit false

namespace SqlSelect

namespace Query

/-- The query in a mode. The clauses that bind values are the joins, WHERE and HAVING. -/
def render (d : Dialect) (mode : RenderMode) (q : Query Sql) : Query String :=
  let inJoins := (q.joins.flatMap (Sql.boundIn mode)).length
  let inFilter := ((q.filter.map (Sql.boundIn mode)).getD []).length
  { q with
    joins := Sql.renderAll d mode 0 q.joins
    filter := q.filter.map (Sql.render d mode inJoins)
    having := q.having.map (Sql.render d mode (inJoins + inFilter)) }

/-- The values that a query binds in a mode. -/
def boundIn (mode : RenderMode) (q : Query Sql) : List SqlValue :=
  q.joins.flatMap (Sql.boundIn mode) ++ (q.filter.map (Sql.boundIn mode)).getD [] ++
    (q.having.map (Sql.boundIn mode)).getD []

/-- Literals need no numbers, so items are written one by one. -/
theorem renderAll_inline (d : Dialect) (used : Nat) (items : List Sql) :
    Sql.renderAll d .inline used items = items.map (Sql.inline d) := by
  induction items generalizing used with
  | nil => rfl
  | cons s rest ih => simp [Sql.renderAll, ih, Sql.render]

/-- With placeholders, each item is numbered on from the one in front of it. -/
theorem renderAll_parameterized (d : Dialect) (used : Nat) (items : List Sql) :
    Sql.renderAll d .parameterized used items = joinsWithPlaceholders d used items := by
  induction items generalizing used with
  | nil => rfl
  | cons s rest ih => simp [Sql.renderAll, joinsWithPlaceholders, ih, Sql.render, Sql.boundIn]

/-- Rendering with literals puts a literal in the place of every value. -/
theorem render_inline (d : Dialect) (q : Query Sql) : q.render d .inline = q.inline d := by
  simp only [render, inline, renderAll_inline]
  rfl

/-- Rendering with placeholders numbers them from the joins to HAVING. -/
theorem render_parameterized (d : Dialect) (q : Query Sql) :
    q.render d .parameterized = q.parameterized d := by
  simp only [render, parameterized, renderAll_parameterized]
  rfl

/-- Limiting rows leaves the clauses with values alone, so it may come before or after
rendering. -/
theorem paginate_render (q : Query Sql) (d d' : Dialect) (mode : RenderMode)
    (limit offset : Option Int) :
    (q.render d' mode).paginate d limit offset
      = (q.paginate d limit offset).map (render d' mode) := by
  unfold paginate
  dsimp only
  split
  · rfl
  · -- Neither side looks at what is rendered, so the means of the dialect decides alone.
    unfold limited
    cases d.pagination with
    | native template =>
      dsimp only
      cases template.render limit (effectiveOffset offset) <;> rfl
    | top => cases limit <;> cases effectiveOffset offset <;> rfl
    | rowNumber => rfl
    | unsupported => rfl

/-- Limiting rows changes the select list and the texts around the statement, and no other
clause. -/
theorem eq_of_limited {σ : Type} {q r : Query σ} {limit offset : Option Int} {means : Pagination}
    (h : q.limited limit offset means = .ok r) :
    r = { q with
      modifiers := r.modifiers, columns := r.columns, limitText := r.limitText
      beforeText := r.beforeText, afterText := r.afterText } := by
  rcases limited_eq_ok_cases h with ⟨_, _, _, _, rfl⟩ | ⟨_, _, _, _, rfl⟩ | ⟨_, rfl⟩ <;> rfl

/-- Limiting rows changes the select list, the words in front of it and the texts around the
statement, and nothing else. -/
theorem eq_of_paginate {σ : Type} {q r : Query σ} {d : Dialect} {limit offset : Option Int}
    (h : q.paginate d limit offset = .ok r) :
    r = { q with
      modifiers := r.modifiers, columns := r.columns, limitText := r.limitText
      beforeText := r.beforeText, afterText := r.afterText } := by
  rcases paginate_eq_ok_cases h with ⟨_, _, rfl⟩ | ⟨_, hlimited⟩
  · rfl
  · exact eq_of_limited hlimited

/-- So the clauses with values in them stay as they are. -/
theorem clauses_of_paginate {σ : Type} {q r : Query σ} {d : Dialect} {limit offset : Option Int}
    (h : q.paginate d limit offset = .ok r) :
    r.sources = q.sources ∧ r.joins = q.joins ∧ r.filter = q.filter ∧ r.having = q.having := by
  rw [eq_of_paginate h]
  exact ⟨rfl, rfl, rfl, rfl⟩

/-- And so does what they bind. -/
theorem boundIn_of_paginate {q r : Query Sql} {d : Dialect} {limit offset : Option Int}
    (h : q.paginate d limit offset = .ok r) (mode : RenderMode) :
    r.boundIn mode = q.boundIn mode := by
  obtain ⟨-, hjoins, hfilter, hhaving⟩ := clauses_of_paginate h
  simp only [boundIn, hjoins, hfilter, hhaving]

/-! ### The clauses one behind the other -/

/-- The joins behind the last entry of the FROM clause. -/
def joinsSql : List Sql → Sql
  | [] => []
  | s :: rest => Sql.ofText " " ++ s ++ joinsSql rest

/-- The FROM clause with the joins, if there is anything in it. -/
def fromSql (q : Query Sql) : Sql :=
  if q.sources.isEmpty && q.joins.isEmpty then []
  else Sql.ofText (" FROM " ++ String.intercalate ", " q.sources) ++ joinsSql q.joins

/-- A clause with its condition, if there is one. -/
def conditionSql (keyword : String) : Option Sql → Sql
  | some condition => Sql.ofText keyword ++ condition
  | none => []

/-- The statement with its values in it. -/
def sql (q : Query Sql) : Sql :=
  Sql.ofText (q.beforeText.getD "" ++ "SELECT " ++ String.join (q.modifiers.map (· ++ " ")) ++
      String.intercalate ", " q.columns) ++
    q.fromSql ++ conditionSql " WHERE " q.filter ++
    Sql.ofText (clauseText " GROUP BY " q.groupBy) ++ conditionSql " HAVING " q.having ++
    Sql.ofText (clauseText " ORDER BY " q.orderBy ++ q.limitText.getD "" ++ q.afterText.getD "")

/-- The joins of a statement are written with a blank in front of each. -/
theorem render_joinsSql (d : Dialect) (mode : RenderMode) (used : Nat) (joins : List Sql) :
    (joinsSql joins).render d mode used
      = String.join ((Sql.renderAll d mode used joins).map (" " ++ ·)) := by
  induction joins generalizing used with
  | nil => exact Sql.render_nil d mode used
  | cons s rest ih => simp [joinsSql, Sql.renderAll, Sql.render_append, ih, String.append_assoc]

/-- They bind their values in order. -/
theorem boundIn_joinsSql (mode : RenderMode) (joins : List Sql) :
    (joinsSql joins).boundIn mode = joins.flatMap (Sql.boundIn mode) := by
  induction joins with
  | nil => exact Sql.boundIn_nil mode
  | cons s rest ih => simp [joinsSql, ih]

/-- The FROM clause of a rendered query is the rendered FROM clause. -/
theorem render_fromSql (d : Dialect) (mode : RenderMode) (q : Query Sql) :
    q.fromSql.render d mode 0 = (q.render d mode).fromText := by
  have hempty : (Sql.renderAll d mode 0 q.joins).isEmpty = q.joins.isEmpty := by
    cases q.joins <;> rfl
  unfold fromSql fromText
  -- The sources are not rendered, so only the joins differ.
  show _ = if q.sources.isEmpty && (Sql.renderAll d mode 0 q.joins).isEmpty then ""
    else " FROM " ++ String.intercalate ", " q.sources ++
      String.join ((Sql.renderAll d mode 0 q.joins).map (" " ++ ·))
  rw [hempty]
  split
  · exact Sql.render_nil d mode 0
  · simp [Sql.render_append, render_joinsSql]

/-- The values of a FROM clause are those of its joins. -/
theorem boundIn_fromSql (mode : RenderMode) (q : Query Sql) :
    q.fromSql.boundIn mode = q.joins.flatMap (Sql.boundIn mode) := by
  unfold fromSql
  split
  · rename_i h
    rw [Bool.and_eq_true, List.isEmpty_iff, List.isEmpty_iff] at h
    simp [h.2]
  · simp [boundIn_joinsSql]

/-- A condition is written behind its keyword, if there is one. -/
theorem render_conditionSql (d : Dialect) (mode : RenderMode) (used : Nat) (keyword : String)
    (condition : Option Sql) :
    (conditionSql keyword condition).render d mode used
      = conditionText keyword (condition.map (Sql.render d mode used)) := by
  cases condition with
  | none => exact Sql.render_nil d mode used
  | some condition => simp [conditionSql, conditionText, Sql.render_append]

/-- And binds its values, if there is one. -/
theorem boundIn_conditionSql (mode : RenderMode) (keyword : String) (condition : Option Sql) :
    (conditionSql keyword condition).boundIn mode
      = (condition.map (Sql.boundIn mode)).getD [] := by
  cases condition with
  | none => exact Sql.boundIn_nil mode
  | some condition => simp [conditionSql]

/-- The placeholders of the clauses are numbered through the statement, in the order of its
text. -/
theorem text_render (d : Dialect) (mode : RenderMode) (q : Query Sql) :
    (q.render d mode).text = q.sql.render d mode 0 := by
  unfold text sql
  rw [← render_fromSql]
  simp [render, Sql.render_append, render_conditionSql, boundIn_fromSql, boundIn_conditionSql,
    String.append_assoc]

/-- The text of a statement binds the values of its clauses, in the order of the text. -/
theorem boundIn_sql (mode : RenderMode) (q : Query Sql) :
    q.sql.boundIn mode = q.boundIn mode := by
  simp [sql, boundIn, boundIn_fromSql, boundIn_conditionSql]

end Query

namespace Criteria

variable {w : Writer}

/-- A condition is written without failing. -/
theorem run_writeCondition (c : Criterion) (bound : List SqlValue) :
    (writeCondition w c).run bound
      = .ok ((c.sql w.toStyle).render w.dialect w.mode bound.length,
          bound ++ (c.sql w.toStyle).boundIn w.mode) :=
  congrArg Except.ok ((c.writes_write).run bound)

/-- The condition of a clause, if there is one. -/
theorem run_mapM_writeCondition (c : Option Criterion) (bound : List SqlValue) :
    (c.mapM (writeCondition w)).run bound
      = .ok ((c.map (Criterion.sql w.toStyle)).map (Sql.render w.dialect w.mode bound.length),
          bound ++ ((c.map (Criterion.sql w.toStyle)).map (Sql.boundIn w.mode)).getD []) := by
  cases c with
  | none => simp
  | some c => simp [run_writeCondition]

/-- Writing a join goes on with the next number, and fails for an alias or not at all. -/
theorem run_writeJoin (k : Criteria) (join : Join) (bound : List SqlValue) :
    (k.writeJoin w join).run bound
      = (k.joinEntry w.toStyle join).map fun s =>
          (s.render w.dialect w.mode bound.length, bound ++ s.boundIn w.mode) := by
  unfold writeJoin joinEntry
  cases k.tableEntry w.toStyle join.table with
  | error e => rfl
  | ok table =>
    cases join.condition with
    | none => simp [Except.map]
    | some condition =>
      simp [run_writeCondition, Except.map, Sql.render_append, String.append_assoc]

/-- The joins are written one after the other, with the numbers going on. -/
theorem run_mapM_writeJoin (k : Criteria) (joins : List Join) (bound : List SqlValue) :
    (joins.mapM (k.writeJoin w)).run bound
      = (joins.mapM (k.joinEntry w.toStyle)).map fun items =>
          (Sql.renderAll w.dialect w.mode bound.length items,
            bound ++ items.flatMap (Sql.boundIn w.mode)) := by
  induction joins generalizing bound with
  | nil => simp [Except.map, Sql.renderAll]
  | cons join joins ih =>
    rw [List.mapM_cons, List.mapM_cons]
    cases hjoin : k.joinEntry w.toStyle join with
    | error e => simp [run_writeJoin, hjoin, Except.map]
    | ok s =>
      -- The other joins find the values of the first one bound.
      have hrest := ih (bound ++ s.boundIn w.mode)
      cases hjoins : joins.mapM (k.joinEntry w.toStyle) with
      | error e => simp [run_writeJoin, hjoin, hjoins, hrest, Except.map]
      | ok items => simp [run_writeJoin, hjoin, hjoins, hrest, Except.map, Sql.renderAll]

/-- The clauses with values are written in the order in which `Query.render` numbers them. -/
theorem run_writeClauses (k : Criteria) :
    (k.writeClauses w).run []
      = (k.clauses w.toStyle).map fun q => (q.render w.dialect w.mode, q.boundIn w.mode) := by
  unfold writeClauses clauses
  cases hcolumns : k.selectList w.toStyle with
  | error e => simp [Except.map]
  | ok columns =>
    cases hsources : k.sourceTables.mapM (k.tableEntry w.toStyle) with
    | error e => simp [Except.map]
    | ok sources =>
      cases hjoins : k.joins.mapM (k.joinEntry w.toStyle) with
      | error e => simp [hjoins, run_mapM_writeJoin, Except.map]
      | ok joins =>
        simp [hjoins, run_mapM_writeJoin, run_mapM_writeCondition, Except.map, Query.render,
          Query.boundIn]

/-- What is written is the query with its values in the form of the mode. -/
theorem build_eq (k : Criteria) (d : Dialect) (mode : RenderMode) (quote : Bool) :
    k.build d mode quote
      = (k.query d quote).map fun q => (q.render d mode, q.boundIn mode) := by
  unfold build query
  rw [run_writeClauses]
  show ((k.clauses (k.style d quote)).map fun q => (q.render d mode, q.boundIn mode)) >>= _ = _
  cases k.clauses (k.style d quote) with
  | error e => rfl
  | ok q =>
    show ((q.render d mode).paginate d k.limit k.offset >>= fun r => pure (r, q.boundIn mode))
      = (q.paginate d k.limit k.offset).map fun r => (r.render d mode, r.boundIn mode)
    -- The rows are limited after writing here and before rendering there.
    rw [Query.paginate_render]
    cases hpaginate : q.paginate d k.limit k.offset with
    | error e => rfl
    | ok r =>
      rw [← Query.boundIn_of_paginate hpaginate mode]
      rfl

/-! ### The clauses of a query -/

/-- What the clauses of a query are: those of the criteria, with the select list, the tables and the
joins written. -/
theorem eq_of_clauses {k : Criteria} {s : Style} {q : Query Sql} (h : k.clauses s = .ok q) :
    k.selectList s = .ok q.columns ∧ k.sourceTables.mapM (k.tableEntry s) = .ok q.sources ∧
      k.joins.mapM (k.joinEntry s) = .ok q.joins ∧
      q = { q with
        filter := k.predicate.map (Criterion.sql s)
        groupBy := k.groupBy.toList.map s.identifier
        having := k.having.map (Criterion.sql s)
        orderBy := k.orderBy.toList.map fun order =>
          s.identifier order.column ++ " " ++ order.direction.sql } := by
  obtain ⟨columns, hcolumns, h⟩ := except_bind_eq_ok_iff.mp h
  obtain ⟨sources, hsources, h⟩ := except_bind_eq_ok_iff.mp h
  obtain ⟨joins, hjoins, h⟩ := except_bind_eq_ok_iff.mp h
  cases h
  exact ⟨hcolumns, hsources, hjoins, rfl⟩

/-- A statement that is written is the rendered query, which is that of its clauses with the rows
limited. -/
theorem exists_of_build {k : Criteria} {d : Dialect} {mode : RenderMode} {quote : Bool}
    {q : Query String} {values : List SqlValue} (h : k.build d mode quote = .ok (q, values)) :
    ∃ clauses limited, k.clauses (k.style d quote) = .ok clauses ∧
      clauses.paginate d k.limit k.offset = .ok limited ∧ q = limited.render d mode := by
  rw [build_eq] at h
  obtain ⟨limited, hquery, hrender⟩ := except_map_eq_ok_iff.mp h
  obtain ⟨clauses, hclauses, hpaginate⟩ := except_bind_eq_ok_iff.mp hquery
  exact ⟨clauses, limited, hclauses, hpaginate, (congrArg Prod.fst hrender).symm⟩

/-- The bounds of the rows leave these clauses as they are. -/
theorem of_query {k : Criteria} {d : Dialect} {quote : Bool} {q : Query Sql}
    (h : k.query d quote = .ok q) :
    k.sourceTables.mapM (k.tableEntry (k.style d quote)) = .ok q.sources ∧
      k.joins.mapM (k.joinEntry (k.style d quote)) = .ok q.joins ∧
      q.filter = k.predicate.map (Criterion.sql (k.style d quote)) ∧
      q.having = k.having.map (Criterion.sql (k.style d quote)) := by
  obtain ⟨q₀, hclauses, hpaginate⟩ := except_bind_eq_ok_iff.mp h
  obtain ⟨hsources, hjoins, hfilter, hhaving⟩ := Query.clauses_of_paginate hpaginate
  obtain ⟨-, hwrittenSources, hwrittenJoins, hq₀⟩ := eq_of_clauses hclauses
  rw [hsources, hjoins, hfilter, hhaving]
  exact ⟨hwrittenSources, hwrittenJoins, congrArg Query.filter hq₀, congrArg Query.having hq₀⟩

/-- The conditions of a statement, in the order of its text. -/
def conditions (k : Criteria) : List Criterion :=
  k.joins.filterMap Join.condition ++ k.predicate.toList ++ k.having.toList

end Criteria

end SqlSelect
