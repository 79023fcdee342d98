import SqlSelect.Proofs.Rendering.Statement

/-!
# `SqlSelect.Proofs.Rendering.Faults`: why no statement is written

`Criteria.build` fails in the select list, in the FROM list, at a join, or where the rows are
limited. `Criteria.offences` lists all that is wrong with some criteria for a dialect, in the order
of the statement.

* `Criteria.errorOf?_build`: the error is the first of the offences, in either mode.
* `Criteria.build_fails_iff`: a statement fails for an alias that is too long or for bounds that the
  dialect cannot express, for the first offence, and never for a condition.
-/

set_option autoImplicit false

namespace SqlSelect

/-! ### Bounds -/

/-- Whether there are rows to skip. -/
def skipsRows (offset : Option Int) : Bool :=
  offset.any fun n => 0 < n

/-- What is wrong with a limit and an offset for a means to limit rows. -/
def Pagination.fault? (limit offset : Option Int) : Pagination → Option PaginationFault
  | .native template =>
    if limit.isNone && skipsRows offset && template.offset.isNone then some .offsetNeedsLimit
    else none
  | .top => if skipsRows offset then some .onlyLimit else none
  | .rowNumber => none
  | .unsupported => if limit.isSome || skipsRows offset then some .noMeans else none

/-- What is wrong with a limit and an offset for a dialect. -/
def Dialect.paginationError? (d : Dialect) (limit offset : Option Int) : Option QueryError :=
  (d.pagination.fault? limit offset).map fun fault =>
    .unsupportedPagination d.name fault.message

namespace Query

variable {σ : Type}

/-- Rows are passed over exactly if the offset counts. -/
theorem skipsRows_eq (offset : Option Int) :
    skipsRows offset = (effectiveOffset offset).isSome := by
  cases offset with
  | none => rfl
  | some n => by_cases h : 0 < n <;> simp [effectiveOffset, skipsRows, h]

/-- A means to limit rows fails for its fault, if there is anything to limit. -/
theorem errorOf?_limited (q : Query σ) (limit offset : Option Int) (means : Pagination)
    (h : limit.isSome ∨ (effectiveOffset offset).isSome) :
    errorOf? (q.limited limit (effectiveOffset offset) means) = means.fault? limit offset := by
  have hskips := skipsRows_eq offset
  unfold Pagination.fault? limited
  rw [hskips]
  generalize effectiveOffset offset = skipped at h
  cases means with
  | native template =>
    cases limit <;> cases skipped <;> cases htemplate : template.offset <;>
      simp [LimitTemplate.render, htemplate, errorOf?]
  | top => cases limit <;> cases skipped <;> first | rfl | simp at h
  | rowNumber => rfl
  | unsupported => cases limit <;> cases skipped <;> first | rfl | simp at h

/-- The bounds fail for the means of the dialect, whatever the query is. -/
theorem errorOf?_paginate (q : Query σ) (d : Dialect) (limit offset : Option Int) :
    errorOf? (q.paginate d limit offset) = d.paginationError? limit offset := by
  unfold Dialect.paginationError?
  rcases bounded_or_unbounded limit offset with hbounded | ⟨hlimit, hoffset⟩
  · rw [paginate_of_bounded hbounded, ← errorOf?_limited q limit offset d.pagination hbounded]
    cases q.limited limit (effectiveOffset offset) d.pagination <;> rfl
  · have hfault : d.pagination.fault? limit offset = none := by
      unfold Pagination.fault?
      rw [skipsRows_eq, hlimit, hoffset]
      cases d.pagination <;> rfl
    rw [paginate_of_unbounded hlimit hoffset, hfault]
    rfl

end Query

/-! ### Aliases -/

/-- What is wrong with a name that a statement introduces. -/
def Dialect.lengthError? (d : Dialect) (name : String) : Option QueryError :=
  if d.maxIdentifierLength < name.length then
    some (.identifierTooLong name d.name d.maxIdentifierLength)
  else none

namespace Criteria

variable (k : Criteria)

/-- The table aliases that are written: those of the FROM list, and behind them those that are
joined. -/
def writtenTableAliases : List String :=
  (k.sourceTables ++ k.joinTargets).filter (· ∈ k.tableAliases.names)

/-- All that is wrong with some criteria for a dialect, in the order of the statement. -/
def offences (d : Dialect) : List QueryError :=
  (k.namedColumns.names ++ k.writtenTableAliases).filterMap d.lengthError? ++
    (d.paginationError? k.limit k.offset).toList

/-- An alias is refused for its length alone. -/
theorem errorOf?_checkedIdentifier (d : Dialect) (name : String) :
    errorOf? (checkedIdentifier d name) = d.lengthError? name := by
  unfold checkedIdentifier Dialect.lengthError?
  split <;> rfl

/-- The select list fails for the first alias that is too long. -/
theorem errorOf?_selectList (s : Style) :
    errorOf? (k.selectList s) = k.namedColumns.names.findSome? s.dialect.lengthError? := by
  have hentry : ∀ entry, errorOf? (namedEntry s entry) = s.dialect.lengthError? entry.1 := by
    intro entry
    rw [namedEntry, errorOf?_map, errorOf?_checkedIdentifier]
  rw [selectList, errorOf?_map, errorOf?_mapM, NamedList.names, List.findSome?_map]
  simp only [hentry]
  rfl

/-- What is wrong with a table that is written: it may be an alias that is too long. -/
def tableError? (d : Dialect) (table : String) : Option QueryError :=
  if table ∈ k.tableAliases.names then d.lengthError? table else none

/-- A table is refused only if it is an alias, and then for its length. -/
theorem errorOf?_tableEntry (s : Style) (table : String) :
    errorOf? (k.tableEntry s table) = k.tableError? s.dialect table := by
  have halias := k.tableAliases.isSome_get?_iff table
  unfold tableEntry tableError?
  cases hreal : k.tableAliases.get? table with
  | none =>
    rw [hreal] at halias
    rw [if_neg fun hmem => by cases halias.mpr hmem]
    rfl
  | some real =>
    rw [hreal] at halias
    rw [if_pos (halias.mp rfl), errorOf?_map, errorOf?_checkedIdentifier]

/-- The first join that fails is that of the first target that does. -/
theorem errorOf?_joinEntries (s : Style) :
    errorOf? (k.joins.mapM (k.joinEntry s))
      = k.joinTargets.findSome? (k.tableError? s.dialect) := by
  have hjoin : ∀ join, errorOf? (k.joinEntry s join) = k.tableError? s.dialect join.table := by
    intro join
    rw [joinEntry, errorOf?_map, errorOf?_tableEntry]
  rw [errorOf?_mapM, joinTargets, List.findSome?_map]
  simp only [hjoin]
  rfl

/-- The first table at fault is the first alias at fault among the tables. -/
theorem findSome?_tableError? (d : Dialect) (tables : List String) :
    tables.findSome? (k.tableError? d)
      = (tables.filter (· ∈ k.tableAliases.names)).findSome? d.lengthError? := by
  rw [← List.head?_filterMap, ← List.head?_filterMap, List.filterMap_filter]
  simp only [decide_eq_true_eq]
  rfl

/-- The clauses fail one after the other: the select list, the FROM list and the joins. -/
theorem errorOf?_clauses (s : Style) :
    errorOf? (k.clauses s)
      = (k.namedColumns.names ++ k.writtenTableAliases).findSome? s.dialect.lengthError? := by
  have htables : k.writtenTableAliases.findSome? s.dialect.lengthError?
      = (k.sourceTables.findSome? (k.tableError? s.dialect)).or
          (k.joinTargets.findSome? (k.tableError? s.dialect)) := by
    rw [← List.findSome?_append, findSome?_tableError?]
    rfl
  have hsources : errorOf? (k.sourceTables.mapM (k.tableEntry s))
      = k.sourceTables.findSome? (k.tableError? s.dialect) := by
    rw [errorOf?_mapM]
    simp only [errorOf?_tableEntry]
  rw [List.findSome?_append, htables, ← errorOf?_selectList, ← hsources, ← errorOf?_joinEntries]
  unfold clauses
  refine errorOf?_bind _ fun columns => errorOf?_bind _ fun sources => ?_
  -- Nothing behind the joins fails.
  exact errorOf?_bind_pure _ _

/-- A statement fails with the first of the offences, and so it does in both modes. -/
theorem errorOf?_build (d : Dialect) (mode : RenderMode) (quote : Bool) :
    errorOf? (k.build d mode quote) = (k.offences d).head? := by
  have hlimited : ∀ q : Query Sql, errorOf? (q.paginate d k.limit k.offset)
      = d.paginationError? k.limit k.offset :=
    fun q => Query.errorOf?_paginate q d k.limit k.offset
  have hquery : errorOf? (k.query d quote)
      = (errorOf? (k.clauses (k.style d quote))).or (d.paginationError? k.limit k.offset) :=
    errorOf?_bind _ hlimited
  rw [build_eq, errorOf?_map, hquery, errorOf?_clauses, offences, List.head?_append,
    List.head?_filterMap, Option.head?_toList]
  rfl

/-! ### Whether a statement fails -/

/-- A name that is as long as the limit is still accepted. -/
theorem lengthError?_eq_none_iff {d : Dialect} {name : String} :
    d.lengthError? name = none ↔ name.length ≤ d.maxIdentifierLength := by
  unfold Dialect.lengthError?
  split
  · simp only [reduceCtorEq, false_iff]
    omega
  · simp only [true_iff]
    omega

/-- Nothing is wrong exactly if no alias is too long and the bounds can be expressed. -/
theorem offences_eq_nil_iff (d : Dialect) :
    k.offences d = [] ↔
      (∀ name ∈ k.namedColumns.names ++ k.writtenTableAliases,
        name.length ≤ d.maxIdentifierLength) ∧ d.pagination.fault? k.limit k.offset = none := by
  rw [offences, List.append_eq_nil_iff, List.filterMap_eq_nil_iff, Option.toList_eq_nil_iff,
    Dialect.paginationError?, Option.map_eq_none_iff]
  simp only [lengthError?_eq_none_iff]

/-- A statement fails exactly if something is wrong, in either mode. -/
theorem exists_build_eq_error_iff (d : Dialect) (mode : RenderMode) (quote : Bool) :
    (∃ e, k.build d mode quote = .error e) ↔ k.offences d ≠ [] := by
  simp only [← errorOf?_eq_some_iff, errorOf?_build]
  cases k.offences d <;> simp

/-- The tables of the FROM list are registered and not joined. -/
theorem mem_sourceTables {table : String} :
    table ∈ k.sourceTables ↔ table ∈ k.tables.toList ∧ table ∉ k.joinTargets := by
  unfold sourceTables
  generalize k.joinSources = mentioned
  simp only [List.partition_eq_filter_filter, List.mem_append, List.mem_filter]
  by_cases hmentioned : table ∈ mentioned <;> simp [hmentioned]

/-- The table aliases that are checked are those that are written, in the FROM list or at a join. -/
theorem mem_writtenTableAliases {table : String} :
    table ∈ k.writtenTableAliases ↔
      (table ∈ k.tables.toList ∨ table ∈ k.joinTargets) ∧ table ∈ k.tableAliases.names := by
  rw [writtenTableAliases, List.mem_filter, List.mem_append, mem_sourceTables, decide_eq_true_eq]
  tauto

/-- The criteria with other conditions. -/
def withConditions (predicate having : Option Criterion) (condition : Join → Option Criterion) :
    Criteria :=
  { k with
    predicate, having
    joins := k.joins.map fun join => { join with condition := condition join } }

/-- Conditions decide on the order of the FROM list, but not on what is in it. -/
theorem offences_withConditions_eq_nil_iff (d : Dialect) (predicate having : Option Criterion)
    (condition : Join → Option Criterion) :
    (k.withConditions predicate having condition).offences d = [] ↔ k.offences d = [] := by
  have htargets : (k.withConditions predicate having condition).joinTargets = k.joinTargets := by
    show (k.joins.map fun join => { join with condition := condition join }).map Join.table = _
    rw [List.map_map]
    rfl
  have haliases : ∀ table, table ∈ (k.withConditions predicate having condition).writtenTableAliases
      ↔ table ∈ k.writtenTableAliases := by
    intro table
    rw [mem_writtenTableAliases, mem_writtenTableAliases, htargets]
    rfl
  simp only [offences_eq_nil_iff, List.mem_append, haliases]
  rfl

/-- A statement is not written if an alias of the select list is too long, if a table is that is
listed or joined under an alias, or if the dialect cannot express the bounds, and for no other
reason. The error is that of the first offence. Conditions have no part in it, and neither has the
way in which the dialect writes them. -/
theorem build_fails_iff (d : Dialect) (mode : RenderMode) (quote : Bool) :
    ((∃ e, k.build d mode quote = .error e) ↔
        (∃ name ∈ k.namedColumns.names, d.maxIdentifierLength < name.length) ∨
        (∃ table ∈ k.sourceTables ++ k.joinTargets,
          table ∈ k.tableAliases.names ∧ d.maxIdentifierLength < table.length) ∨
        d.pagination.fault? k.limit k.offset ≠ none) ∧
      (∀ e, k.build d mode quote = .error e ↔ (k.offences d).head? = some e) ∧
      ∀ (predicate having : Option Criterion) (condition : Join → Option Criterion),
        (∃ e, (k.withConditions predicate having condition).build d mode quote = .error e) ↔
          ∃ e, k.build d mode quote = .error e := by
  refine ⟨?_, fun e => ?_, fun predicate having condition => ?_⟩
  · rw [exists_build_eq_error_iff, ne_eq, offences_eq_nil_iff, writtenTableAliases]
    simp only [List.mem_append, List.mem_filter, decide_eq_true_eq, not_and_or, not_forall,
      Nat.not_le, exists_prop, or_and_right, exists_or, or_assoc, and_assoc, ne_eq]
  · rw [← errorOf?_eq_some_iff, errorOf?_build]
  · -- Other conditions may put another offence first, but they neither add one nor remove one.
    rw [exists_build_eq_error_iff, exists_build_eq_error_iff, ne_eq, ne_eq,
      offences_withConditions_eq_nil_iff]

end Criteria

end SqlSelect
