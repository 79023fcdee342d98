import SqlSelect.Proofs.Building.JoinChain
import SqlSelect.Proofs.Rendering.Aliases
import SqlSelect.Proofs.Rendering.Comparisons
import SqlSelect.Proofs.Rendering.QuotedNames

/-!
# `SqlSelect.Proofs.Rendering.AliasSpelling`: aliases where they are declared and used

An alias of a table stands behind the table, and an alias of the select list behind `AS`, each as it
was given. Where a column in front of its dot or an ORDER BY names the alias, it is an expression
like any other, so `Style.identifier` quotes it. A product that tells quoted names from others does
not find the alias then.

* `Comparison.sql_mapColumns`: the columns of a condition are written by `Style.identifier` too.
* `Criteria.WritesNames`: each clause of a statement in the names that stand in it.
* `Criteria.spelledAlike_iff`: the aliases that are used are spelled alike if nothing is quoted, and
  only then, in a dialect that quotes names in the common form.
* `Criteria.names_of_build`: both, for a statement that is written.
-/

set_option autoImplicit false

namespace SqlSelect

open Column

/-! ### The columns of conditions -/

/-- The style without quotes around names. -/
def Style.unquoted (s : Style) : Style :=
  { s with quoteIdentifiers := false }

/-- Where nothing is quoted, every expression is written as it is. -/
theorem Style.identifier_unquoted (s : Style) (expression : String) :
    s.unquoted.identifier expression = expression :=
  s.unquoted.identifier_of_unquoted (.inl rfl)

/-- The test with another column on its right side, if it has one there. -/
def Test.mapColumn (f : String → String) : Test → Test
  | relation r (.column other) => relation r (.column (f other))
  | test => test

namespace Comparison

/-- The comparison with other columns in the places of its own. -/
def mapColumns (f : String → String) (c : Comparison) : Comparison :=
  { c with column := f c.column, test := c.test.mapColumn f }

/-- The columns that are in the text of a comparison. A raw condition is its own text, and nothing
is in an empty list whatever the column is. -/
def writtenColumns (c : Comparison) : List String :=
  match c.test with
  | .raw _ | .membership _ [] => []
  | _ => c.columns

/-- A comparison without a second column has a test without one. -/
theorem mapColumn_test {f : String → String} {c : Comparison} (h : c.comparesColumns = false) :
    c.test.mapColumn f = c.test := by
  obtain ⟨column, test, ignoreCase⟩ := c
  cases test with
  | relation r right =>
    cases right with
    | column other => cases h
    | value v => rfl
  | _ => rfl

/-- A column stands in a condition as `Style.identifier` writes it. -/
theorem sql_mapColumns (s : Style) (c : Comparison) :
    (c.mapColumns s.identifier).sql s.unquoted = c.sql s := by
  cases hcolumns : c.comparesColumns with
  | true =>
    obtain ⟨column, test, ignoreCase⟩ := c
    obtain ⟨r, other, htest⟩ := exists_of_comparesColumns hcolumns
    cases htest
    show Test.relationSql s.unquoted _ (s.unquoted.identifier (s.identifier column)) _
      (s.unquoted.expression _ (s.unquoted.identifier (s.identifier other))) = _
    rw [s.identifier_unquoted, s.identifier_unquoted]
    rfl
  | false => exact sql_congr hcolumns (mapColumn_test hcolumns) rfl (s.identifier_unquoted _) rfl

end Comparison

/-! ### Generated aliases -/

/-- A column of a subquery stays as it is, or it has no alias and gets one that is generated. -/
def Query.NamedAs (entry written : String) : Prop :=
  written = entry ∨ (splitAlias entry).2 = none ∧
    ∃ n, written = (splitAlias entry).1 ++ " " ++ Query.generatedAlias n

/-- A plain column behind which an alias was put is still this column. -/
theorem Query.namedAs_withAlias {entry name : String} (hname : plainName? entry = some name)
    (n : Nat) : NamedAs entry (withAlias entry n) := by
  have hgiven := (plainName?_eq_some_iff.mp hname).2.1
  refine .inr ⟨hgiven, n, ?_⟩
  rw [splitAlias_of_snd_eq_none hgiven]
  rfl

/-- Every entry keeps its expression when the list is gone through. -/
theorem Query.Aliased.forall₂_namedAs {taken entries written : List String} {next : Nat}
    {numbers : List Nat} (h : Aliased taken next entries numbers written) :
    List.Forall₂ NamedAs entries written := by
  induction h with
  | nil => exact .nil
  | unnamed _ _ ih => exact .cons (.inl rfl) ih
  | first _ _ _ ih => exact .cons (.inl rfl) ih
  | later hname _ _ _ _ ih => exact .cons (namedAs_withAlias hname _) ih

/-- So a subquery has the entries of the select list, with aliases behind some of them. -/
theorem Query.forall₂_aliasDuplicates (entries : List String) :
    List.Forall₂ NamedAs entries (aliasDuplicates entries) := by
  obtain ⟨_, h⟩ := aliased_aliasDuplicates entries
  exact h.forall₂_namedAs

/-- A list that is left as it is has these entries too. -/
theorem Query.forall₂_namedAs_self (entries : List String) :
    List.Forall₂ NamedAs entries entries := by
  induction entries with
  | nil => exact .nil
  | cons entry rest ih => exact .cons (.inl rfl) ih

namespace Criteria

/-! ### The names in a statement -/

section Names

variable (k : Criteria) (s : Style)

/-- A table in the FROM clause: an alias stands as it is behind the table that it is for. -/
def tableText (table : String) : String :=
  match k.tableAliases.get? table with
  | some real => s.identifier real ++ " " ++ table
  | none => s.identifier table

/-- An entry of the select list with an alias: it stands as it is behind `AS`. -/
def namedText (entry : String × String) : String :=
  s.identifier entry.2 ++ " AS " ++ entry.1

/-- The expressions of the select list. -/
def selectExpressions : List String :=
  let entries := k.selectColumns.toList ++ k.namedColumns.entries.map Prod.snd
  if entries.isEmpty then (k.defaultTable.map (· ++ ".*")).toList else entries

/-- The expressions by which rows are grouped and ordered. -/
def groupingExpressions : List String :=
  k.groupBy.toList ++ k.orderBy.toList.map Order.column

/-- The column expressions of a statement. -/
def writtenExpressions : List String :=
  k.selectExpressions ++
    (k.conditions.flatMap Criterion.comparisons).flatMap Comparison.writtenColumns ++
    k.groupingExpressions

end Names

/-- The clauses of a statement in the names that stand in them. Aliases are declared as they are,
and the columns and tables are written by `Style.identifier`. -/
structure WritesNames (k : Criteria) (s : Style) (mode : RenderMode) (q : Query String) : Prop where
  columns : List.Forall₂ Query.NamedAs (k.selectEntries s) q.columns
  sources : q.sources = k.sourceTables.map (k.tableText s)
  joins : List.Forall₂
    (fun join text => ∃ used, text = joinText s.unquoted mode
      (join.mapComparisons (Comparison.mapColumns s.identifier)) (k.tableText s join.table) used)
    k.joins q.joins
  filter : ∃ used, q.filter = k.predicate.map fun c =>
    ((c.mapComparisons (Comparison.mapColumns s.identifier)).sql s.unquoted).render
      s.dialect mode used
  groupBy : q.groupBy = k.groupBy.toList.map s.identifier
  having : ∃ used, q.having = k.having.map fun c =>
    ((c.mapComparisons (Comparison.mapColumns s.identifier)).sql s.unquoted).render
      s.dialect mode used
  orderBy : q.orderBy = k.orderBy.toList.map fun order =>
    s.identifier order.column ++ " " ++ order.direction.sql

/-- Aliases are spelled where they are used as they are where they are declared. -/
structure SpelledAlike (k : Criteria) (s : Style) : Prop where
  /-- What stands behind the table stands in front of the dot of every plain column. -/
  tables : ∀ name ∈ k.sourceTables ++ k.joinTargets, ∀ real, k.tableAliases.get? name = some real →
    IsIdentifier name → ∀ column, IsColumn column → name ++ "." ++ column ∈ k.writtenExpressions →
      ∃ declared, k.tableText s name = s.identifier real ++ " " ++ declared ∧
        s.identifier (name ++ "." ++ column) = declared ++ "." ++ s.identifier column
  /-- What stands behind `AS` stands in GROUP BY and ORDER BY. -/
  columns : ∀ entry ∈ k.namedColumns.entries, entry.1 ∈ k.groupingExpressions →
    ∃ declared, namedText s entry = s.identifier entry.2 ++ " AS " ++ declared ∧
      s.identifier entry.1 = declared

/-- Whether an alias is used by a name that can be quoted: a table alias in front of a plain column,
or an alias of the select list in GROUP BY or ORDER BY. -/
def UsesAlias (k : Criteria) : Prop :=
  (∃ name ∈ k.writtenTableAliases, IsIdentifier name ∧
    ∃ column, IsColumn column ∧ name ++ "." ++ column ∈ k.writtenExpressions) ∨
  ∃ name ∈ k.namedColumns.names, isIdentifierPath name = true ∧ name ∈ k.groupingExpressions

section Spelling

variable {k : Criteria} {s : Style}
  (hquoting : s.dialect.quoteIdentifier = quotedName s.dialect.openQuote s.dialect.closeQuote)
include hquoting

/-- One table alias in front of one column. -/
theorem tableAlias_spelledAlike_iff {name real column : String}
    (hreal : k.tableAliases.get? name = some real) (hname : IsIdentifier name)
    (hcolumn : IsColumn column) :
    (∃ declared, k.tableText s name = s.identifier real ++ " " ++ declared ∧
        s.identifier (name ++ "." ++ column) = declared ++ "." ++ s.identifier column) ↔
      s.quoteIdentifiers = false := by
  have htext : k.tableText s name = s.identifier real ++ " " ++ name := by
    rw [tableText, hreal]
  -- The declaration spells the bare alias, so the use must too.
  have hself : s.identifier name = name ↔ s.quoteIdentifiers = false := by
    rw [s.identifier_eq_self_iff hquoting, isIdentifierPath_of_isIdentifier hname]
    simp
  rw [htext, s.identifier_append_dot hquoting hname hcolumn, ← hself]
  constructor
  · rintro ⟨declared, hdeclared, hused⟩
    rw [String.append_right_inj] at hdeclared
    rw [String.append_left_inj, String.append_left_inj] at hused
    rw [hused, hdeclared]
  · intro h
    exact ⟨name, rfl, by rw [h]⟩

/-- One alias of the select list. -/
theorem namedColumn_spelledAlike_iff (entry : String × String) :
    (∃ declared, namedText s entry = s.identifier entry.2 ++ " AS " ++ declared ∧
        s.identifier entry.1 = declared) ↔
      s.quoteIdentifiers = false ∨ isIdentifierPath entry.1 = false := by
  rw [← s.identifier_eq_self_iff hquoting]
  constructor
  · rintro ⟨declared, hdeclared, hused⟩
    rw [namedText, String.append_right_inj] at hdeclared
    rw [hused, hdeclared]
  · intro h
    exact ⟨entry.1, rfl, h⟩

/-- The aliases that are used are spelled alike where nothing is quoted, and nowhere else. -/
theorem spelledAlike_iff : k.SpelledAlike s ↔ s.quoteIdentifiers = false ∨ ¬ k.UsesAlias := by
  constructor
  · intro h
    -- A single alias that is used and quoted is enough to be spelled differently.
    by_contra hquoted
    rw [not_or, Bool.not_eq_false, not_not] at hquoted
    obtain ⟨hquote, huses⟩ := hquoted
    rcases huses with ⟨name, hwritten, hname, column, hcolumn, hused⟩ | ⟨name, hnamed, hpath, hused⟩
    · obtain ⟨htable, halias⟩ := List.mem_filter.mp hwritten
      have hsome := (k.tableAliases.isSome_get?_iff name).mpr (of_decide_eq_true halias)
      obtain ⟨real, hreal⟩ := Option.isSome_iff_exists.mp hsome
      have hfalse := (tableAlias_spelledAlike_iff hquoting hreal hname hcolumn).mp
        (h.tables name htable real hreal hname column hcolumn hused)
      rw [hquote] at hfalse
      cases hfalse
    · obtain ⟨entry, hentry, rfl⟩ := List.mem_map.mp hnamed
      have hfalse := (namedColumn_spelledAlike_iff hquoting entry).mp (h.columns entry hentry hused)
      rw [hquote, hpath] at hfalse
      simp at hfalse
  · rintro (hquote | hnone)
    · constructor
      · intro name _ real hreal hname column hcolumn _
        exact (tableAlias_spelledAlike_iff hquoting hreal hname hcolumn).mpr hquote
      · intro entry _ _
        exact (namedColumn_spelledAlike_iff hquoting entry).mpr (.inl hquote)
    · constructor
      · intro name htable real hreal hname column hcolumn hused
        have halias := (k.tableAliases.isSome_get?_iff name).mp (Option.isSome_of_eq_some hreal)
        have hwritten : name ∈ k.writtenTableAliases :=
          List.mem_filter.mpr ⟨htable, decide_eq_true halias⟩
        exact absurd (.inl ⟨name, hwritten, hname, column, hcolumn, hused⟩) hnone
      · intro entry hentry hused
        refine (namedColumn_spelledAlike_iff hquoting entry).mpr (.inr ?_)
        by_contra hpath
        rw [Bool.not_eq_false] at hpath
        exact hnone (.inr ⟨entry.1, List.mem_map_of_mem hentry, hpath, hused⟩)

end Spelling

/-! ### A written statement -/

section Written

variable {k : Criteria} {s : Style} {d : Dialect} {mode : RenderMode} {quote : Bool}
  {q : Query String} {values : List SqlValue}

/-- A table is written with its alias, if it is one, and the alias is not quoted there. -/
theorem eq_tableText_of_tableEntry {table entry : String}
    (h : k.tableEntry s table = .ok entry) : entry = k.tableText s table := by
  unfold tableEntry at h
  unfold tableText
  cases hreal : k.tableAliases.get? table with
  | some real =>
    rw [hreal] at h
    obtain ⟨name, hname, rfl⟩ := except_map_eq_ok_iff.mp h
    rw [identifier_of_checkedIdentifier hname]
  | none =>
    rw [hreal] at h
    cases h
    rfl

/-- The condition of a join in the names that stand in it. -/
theorem joinText_mapColumns (join : Join) (entry : String) (used : Nat) :
    joinText s.unquoted mode (join.mapComparisons (Comparison.mapColumns s.identifier)) entry used
      = joinText s mode join entry used := by
  obtain ⟨joinType, table, condition⟩ := join
  cases condition with
  | none => rfl
  | some condition =>
    have hsql := condition.sql_mapComparisons (Comparison.sql_mapColumns s)
    simp only [joinText, Join.mapComparisons, Option.map_some, hsql]
    rfl

/-- The grouping and the order of a statement do not depend on its bounds, and neither does the text
of its conditions. -/
theorem clauses_of_build (h : k.build d mode quote = .ok (q, values)) :
    (∃ used, q.filter = k.predicate.map fun c =>
        (c.sql (k.style d quote)).render d mode used) ∧
      q.groupBy = k.groupBy.toList.map (k.style d quote).identifier ∧
      (∃ used, q.having = k.having.map fun c => (c.sql (k.style d quote)).render d mode used) ∧
      q.orderBy = k.orderBy.toList.map fun order =>
        (k.style d quote).identifier order.column ++ " " ++ order.direction.sql := by
  obtain ⟨clauses, limited, hclauses, hpaginate, rfl⟩ := exists_of_build h
  obtain ⟨-, -, -, hclauses⟩ := eq_of_clauses hclauses
  rw [Query.eq_of_paginate hpaginate, hclauses]
  exact ⟨⟨_, Option.map_map _ _ _⟩, rfl, ⟨_, Option.map_map _ _ _⟩, rfl⟩

/-- A statement declares its aliases as they are and writes its columns by `Style.identifier`. So
where a dialect quotes names in the common form, the aliases that it uses are spelled alike if names
are not quoted, and only then. -/
theorem names_of_build (h : k.build d mode quote = .ok (q, values)) :
    k.WritesNames (k.style d quote) mode q ∧
      (d.quoteIdentifier = quotedName d.openQuote d.closeQuote →
        (k.SpelledAlike (k.style d quote) ↔
          (quote || k.quoteIdentifiers) = false ∨ ¬ k.UsesAlias)) := by
  refine ⟨?_, fun hquoting => spelledAlike_iff hquoting⟩
  -- The clauses are known as they are written; what is left is to find the names in their texts.
  obtain ⟨hsources, hjoins⟩ := entries_of_build h
  obtain ⟨⟨inJoins, hfilter⟩, hgroupBy, ⟨inFilter, hhaving⟩, horderBy⟩ := clauses_of_build h
  have hsql : ∀ c : Criterion,
      (c.mapComparisons (Comparison.mapColumns (k.style d quote).identifier)).sql
        (k.style d quote).unquoted = c.sql (k.style d quote) :=
    Criterion.sql_mapComparisons (Comparison.sql_mapColumns (k.style d quote))
  refine ⟨?_, ?_, ?_, ⟨inJoins, ?_⟩, hgroupBy, ⟨inFilter, ?_⟩, horderBy⟩
  · rcases k.columns_of_build h with hcolumns | hcolumns
    · rw [hcolumns]
      exact Query.forall₂_namedAs_self _
    · rw [hcolumns]
      exact Query.forall₂_aliasDuplicates _
  · exact eq_map_of_mapM (fun _ _ => eq_tableText_of_tableEntry) (mapM_eq_ok_iff.mpr hsources)
  · refine hjoins.imp ?_
    rintro join text ⟨entry, used, hentry, rfl⟩
    exact ⟨used, by rw [joinText_mapColumns, eq_tableText_of_tableEntry hentry]⟩
  · simp only [hsql]
    exact hfilter
  · simp only [hsql]
    exact hhaving

/-- A table and a column with aliases that are both used, with names quoted or not. -/
def aliasedSteps (quote : Bool) : List Step :=
  [.addAlias "u" "users", .select "u.id", .selectAs "n" "u.name", .addOrderBy "n" .ascending,
    .setQuoteIdentifiers quote]

/-- Aliases of both kinds where nothing is quoted: they are spelled alike. -/
theorem names_of_build_unquoted :
    ∃ k q values, ofSteps (aliasedSteps false) = .ok k ∧
      k.build Backend.oracle.dialect .inline false = .ok (q, values) ∧
      q.text = "SELECT u.id, u.name AS n FROM users u ORDER BY n ASC" ∧
      k.WritesNames (k.style Backend.oracle.dialect false) .inline q ∧
      k.SpelledAlike (k.style Backend.oracle.dialect false) := by
  have hrun : ((ofSteps (aliasedSteps false)).bind fun k =>
      (k.build Backend.oracle.dialect .inline false).map fun written =>
        (written.1.text, k.quoteIdentifiers))
        = .ok ("SELECT u.id, u.name AS n FROM users u ORDER BY n ASC", false) := by
    decide +kernel
  obtain ⟨k, hsteps, hrun⟩ := except_bind_eq_ok_iff.mp hrun
  obtain ⟨⟨q, values⟩, hbuild, hk⟩ := except_map_eq_ok_iff.mp hrun
  simp only [Prod.mk.injEq] at hk
  obtain ⟨htext, hquote⟩ := hk
  obtain ⟨hnames, halike⟩ := names_of_build hbuild
  exact ⟨k, q, values, hsteps, hbuild, htext, hnames, (halike rfl).mpr (.inl hquote)⟩

/-- With names quoted, `u` stands behind the table and `"u"` in front of the dots, and `n` behind
`AS` and `"n"` in ORDER BY. -/
theorem not_spelledAlike_of_quoted :
    ∃ k q values, ofSteps (aliasedSteps true) = .ok k ∧
      k.build Backend.oracle.dialect .inline false = .ok (q, values) ∧
      q.text = "SELECT \"u\".\"id\", \"u\".\"name\" AS n FROM \"users\" u ORDER BY \"n\" ASC" ∧
      ¬ k.SpelledAlike (k.style Backend.oracle.dialect false) := by
  have hrun : ((ofSteps (aliasedSteps true)).bind fun k =>
      (k.build Backend.oracle.dialect .inline false).map fun written =>
        (written.1.text, k.quoteIdentifiers, k.namedColumns.names, k.groupingExpressions))
        = .ok ("SELECT \"u\".\"id\", \"u\".\"name\" AS n FROM \"users\" u ORDER BY \"n\" ASC",
          true, ["n"], ["n"]) := by
    decide +kernel
  obtain ⟨k, hsteps, hrun⟩ := except_bind_eq_ok_iff.mp hrun
  obtain ⟨⟨q, values⟩, hbuild, hk⟩ := except_map_eq_ok_iff.mp hrun
  simp only [Prod.mk.injEq] at hk
  obtain ⟨htext, hquote, hnamed, hgrouping⟩ := hk
  refine ⟨k, q, values, hsteps, hbuild, htext, ?_⟩
  rw [spelledAlike_iff (Backend.quoteIdentifier_dialect .oracle)]
  -- Quoting is on, and the declared name is used for sorting.
  rintro (hunquoted | hunused)
  · have hstyle : (false || k.quoteIdentifiers) = false := hunquoted
    rw [hquote] at hstyle
    cases hstyle
  · apply hunused
    right
    exact ⟨"n", by simp [hnamed], isIdentifierPath_of_isIdentifier (by decide), by simp [hgrouping]⟩

end Written

end Criteria

end SqlSelect
