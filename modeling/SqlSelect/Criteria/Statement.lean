import SqlSelect.Criteria.Basic
import SqlSelect.Criterion.Writer
import SqlSelect.Dialect.Backend
import SqlSelect.Query.Pagination

/-!
# `SqlSelect.Criteria.Statement`: criteria as SELECT statements

`Criteria.build` writes the query of some criteria in a dialect, with the values of its conditions
as literals or as placeholders, and `Criteria.inline` and `Criteria.parameterized` are the
statement. `Criteria.query` is the same query with the values still in it. Three things can fail,
in this order: an alias in the select list or a table alias is longer than the dialect allows, and
the dialect cannot express the bounds.

Tables that are joined are left out of the FROM list. The tables that a join condition mentions
come last in it, so that the joins attach to them.
-/

set_option autoImplicit false

namespace SqlSelect.Criteria

/-- The style of the conditions of some criteria; `quote` asks for quoting in any case. -/
def style (k : Criteria) (d : Dialect) (quote : Bool) : Style where
  dialect := d
  quoteIdentifiers := quote || k.quoteIdentifiers
  ignoreCase := k.ignoreCase

/-- An identifier as it is, if it is not too long. -/
def checkedIdentifier (d : Dialect) (identifier : String) : Except QueryError String :=
  if d.maxIdentifierLength < identifier.length then
    .error (.identifierTooLong identifier d.name d.maxIdentifierLength)
  else .ok identifier

/-- An entry of the select list that has an alias. -/
def namedEntry (s : Style) (entry : String × String) : Except QueryError String :=
  (checkedIdentifier s.dialect entry.1).map fun name =>
    s.identifier entry.2 ++ " AS " ++ name

/-- The entry of an empty select list. -/
def allColumns (k : Criteria) (s : Style) : String :=
  match k.defaultTable with
  | some table => s.identifier (table ++ ".*")
  | none => "*"

/-- The select list. -/
def selectList (k : Criteria) (s : Style) : Except QueryError (List String) :=
  (k.namedColumns.entries.mapM (namedEntry s)).map fun named =>
    let entries := k.selectColumns.toList.map s.identifier ++ named
    if entries.isEmpty then [k.allColumns s] else entries

/-- The tables that are joined. -/
def joinTargets (k : Criteria) : List String :=
  k.joins.map Join.table

/-- The tables that join conditions mention. -/
def joinSources (k : Criteria) : List String :=
  let columns := k.joins.flatMap fun join =>
    (join.condition.map Criterion.columnRefs).getD []
  columns.flatMap fun column => (Column.tableNames column).toOption.getD []

/-- The tables of the FROM list in their order. -/
def sourceTables (k : Criteria) : List String :=
  let sources := k.joinSources
  let listed := k.tables.toList.filter fun table => !k.joinTargets.contains table
  let (mentioned, plain) := listed.partition fun table => sources.contains table
  plain ++ mentioned

/-- A table, or an alias behind the table that it stands for. -/
def tableEntry (k : Criteria) (s : Style) (table : String) : Except QueryError String :=
  match k.tableAliases.get? table with
  | some real =>
    (checkedIdentifier s.dialect table).map fun name => s.identifier real ++ " " ++ name
  | none => .ok (s.identifier table)

/-- A join. -/
def joinEntry (k : Criteria) (s : Style) (join : Join) : Except QueryError Sql :=
  (k.tableEntry s join.table).map fun table =>
    let start := Sql.ofText (join.joinType.sql ++ " " ++ table)
    match join.condition with
    | some condition => start ++ Sql.ofText " ON " ++ condition.sql s
    | none => start

/-- The query without its bounds. -/
def clauses (k : Criteria) (s : Style) : Except QueryError (Query Sql) := do
  let columns ← k.selectList s
  let sources ← k.sourceTables.mapM (k.tableEntry s)
  let joins ← k.joins.mapM (k.joinEntry s)
  return {
    modifiers := if k.distinct then ["DISTINCT"] else []
    columns, sources, joins
    filter := k.predicate.map (Criterion.sql s)
    groupBy := k.groupBy.toList.map s.identifier
    having := k.having.map (Criterion.sql s)
    orderBy := k.orderBy.toList.map fun order =>
      s.identifier order.column ++ " " ++ order.direction.sql }

/-- The query of some criteria in a dialect. -/
def query (k : Criteria) (d : Dialect) (quote : Bool) : Except QueryError (Query Sql) :=
  (k.clauses (k.style d quote)).bind fun q => q.paginate d k.limit k.offset

/-- The warnings that go with `query`. -/
def warnings (k : Criteria) (d : Dialect) (quote : Bool) : List String :=
  match k.clauses (k.style d quote) with
  | .ok q => q.paginationWarnings d k.limit k.offset
  | .error _ => []

/-! ### Writing the statement -/

/-- A statement that is being written, which may fail. -/
abbrev Rendering := StateT (List SqlValue) (Except QueryError)

/-- A condition as a part of a statement. -/
def writeCondition (w : Writer) (condition : Criterion) : Rendering String :=
  modifyGet (condition.write w).run

/-- How the statement of some criteria is written; `quote` asks for quoting in any case. -/
def writer (k : Criteria) (d : Dialect) (mode : RenderMode) (quote : Bool) : Writer :=
  { k.style d quote with mode }

/-- Writes a join. -/
def writeJoin (k : Criteria) (w : Writer) (join : Join) : Rendering String := do
  let table ← k.tableEntry w.toStyle join.table
  let start := join.joinType.sql ++ " " ++ table
  match join.condition with
  | some condition => return start ++ " ON " ++ (← writeCondition w condition)
  | none => return start

/-- Writes the query without its bounds, clause by clause. -/
def writeClauses (k : Criteria) (w : Writer) : Rendering (Query String) := do
  let columns ← k.selectList w.toStyle
  let sources ← (k.sourceTables.mapM (k.tableEntry w.toStyle) : Except QueryError (List String))
  let joins ← k.joins.mapM (k.writeJoin w)
  let filter ← k.predicate.mapM (writeCondition w)
  let having ← k.having.mapM (writeCondition w)
  return {
    modifiers := if k.distinct then ["DISTINCT"] else []
    columns, sources, joins, filter
    groupBy := k.groupBy.toList.map w.identifier
    having
    orderBy := k.orderBy.toList.map fun order =>
      w.identifier order.column ++ " " ++ order.direction.sql }

/-- The query of some criteria in a dialect, and the values bound to its parameters. -/
def build (k : Criteria) (d : Dialect) (mode : RenderMode) (quote : Bool) :
    Except QueryError (Query String × List SqlValue) := do
  let (q, values) ← (k.writeClauses (k.writer d mode quote)).run []
  return (← q.paginate d k.limit k.offset, values)

/-- The statement with the literals of its values, identifiers quoted if `quote` says so. -/
def inlineWith (k : Criteria) (d : Dialect) (quote : Bool) : Except QueryError String :=
  (k.build d .inline quote).map fun (q, _) => q.text

/-- The statement with placeholders and their values, identifiers quoted if `quote` says so. -/
def parameterizedWith (k : Criteria) (d : Dialect) (quote : Bool) :
    Except QueryError (String × List SqlValue) :=
  (k.build d .parameterized quote).map fun (q, values) => (q.text, values)

/-- The statement with the literals of its values. -/
def inline (k : Criteria) (d : Dialect) : Except QueryError String :=
  k.inlineWith d false

/-- The statement with placeholders, and their values. -/
def parameterized (k : Criteria) (d : Dialect) : Except QueryError (String × List SqlValue) :=
  k.parameterizedWith d false

/-- The criteria as they are shown to a reader. -/
def display (k : Criteria) : String :=
  match k.inline Backend.postgres.dialect with
  | .ok statement => statement
  | .error e => "<unrenderable criteria: " ++ e.message ++ ">"

end SqlSelect.Criteria
