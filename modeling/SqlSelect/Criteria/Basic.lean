import SqlSelect.Column.Table
import SqlSelect.Criterion.Basic
import SqlSelect.NamedList
import SqlSelect.UniqueList

/-!
# `SqlSelect.Criteria.Basic`: what a SELECT statement asks for

A `Criteria` collects select columns, conditions, joins, orders and bounds, and knows nothing of a
dialect. Each step of building is a function from criteria to criteria. The tables that an
expression refers to are registered with it, so columns have to be qualified: a step with a bare
column fails and says which one. Raw conditions, GROUP BY and ORDER BY may also name something
else, and register what tables they have.
-/

set_option autoImplicit false

namespace SqlSelect

/-- The kind of a join. -/
inductive JoinType where
  | inner
  | left
  | right
  | full
  | cross
  deriving DecidableEq, Repr

namespace JoinType

/-- All kinds of joins. -/
def all : List JoinType := [inner, left, right, full, cross]

/-- The join in a statement. -/
def sql : JoinType → String
  | inner => "INNER JOIN"
  | left => "LEFT JOIN"
  | right => "RIGHT JOIN"
  | full => "FULL JOIN"
  | cross => "CROSS JOIN"

end JoinType

/-- A table joined to the FROM clause; only a cross join has no condition. -/
structure Join where
  joinType : JoinType
  table : String
  condition : Option Criterion

/-- The direction of an order. -/
inductive Direction where
  | ascending
  | descending
  deriving DecidableEq, Repr

/-- The direction in a statement. -/
def Direction.sql : Direction → String
  | ascending => "ASC"
  | descending => "DESC"

/-- A column to order by. -/
structure Order where
  column : String
  direction : Direction
  deriving DecidableEq, Repr

/-- What a SELECT statement asks for. -/
structure Criteria where
  /-- The configured database to ask, the default one if there is none. -/
  databaseName : Option String := none
  distinct : Bool := false
  /-- The expressions of the select list. -/
  selectColumns : UniqueList String := .empty
  /-- The expressions behind them that have an alias, under their aliases. -/
  namedColumns : NamedList String := .empty
  /-- The registered tables and table aliases. -/
  tables : UniqueList String := .empty
  /-- The tables under their aliases. -/
  tableAliases : NamedList String := .empty
  joins : List Join := []
  /-- The condition of the WHERE clause. -/
  predicate : Option Criterion := none
  groupBy : UniqueList String := .empty
  having : Option Criterion := none
  orderBy : UniqueList Order := .empty
  limit : Option Int := none
  offset : Option Int := none
  /-- Whether every comparison with a text ignores case. -/
  ignoreCase : Bool := false
  /-- Whether plain column and table names are quoted. -/
  quoteIdentifiers : Bool := false
  /-- The table of which all columns are selected if the select list is empty. -/
  defaultTable : Option String := none

namespace Criteria

/-- The criteria that ask for nothing yet. -/
def empty : Criteria := {}

instance : Inhabited Criteria := ⟨empty⟩

/-! ### Registering tables -/

/-- The criteria with the tables of an expression registered. -/
def register (k : Criteria) (expression : String) : Except QueryError Criteria :=
  (Column.tableNames expression).map fun tables => { k with tables := k.tables.insertAll tables }

/-- The criteria with the tables of an expression registered, if it refers to any. -/
def registerIfQualified (k : Criteria) (expression : String) : Criteria :=
  match Column.tableNames expression with
  | .ok tables => { k with tables := k.tables.insertAll tables }
  | .error _ => k

/-- The criteria with the tables of a comparison registered; a raw condition need not refer to
any. -/
def registerComparison (k : Criteria) (c : Comparison) : Except QueryError Criteria :=
  match c.test with
  | .raw _ => .ok (k.registerIfQualified c.column)
  | _ => c.columns.foldlM register k

/-- The criteria with the tables of a criterion registered. -/
def registerCriterion (k : Criteria) (c : Criterion) : Except QueryError Criteria :=
  c.comparisons.foldlM registerComparison k

/-! ### The select list -/

/-- Selects a column expression. -/
def select (k : Criteria) (column : String) : Except QueryError Criteria :=
  (k.register column).map fun k => { k with selectColumns := k.selectColumns.insert column }

/-- Selects an expression under an alias. -/
def selectAs (k : Criteria) (name expression : String) : Except QueryError Criteria :=
  (k.register expression).map fun k =>
    { k with namedColumns := k.namedColumns.put name expression }

/-- Selects distinct rows only, or all of them. -/
def setDistinct (k : Criteria) (on : Bool) : Criteria :=
  { k with distinct := on }

/-- Selects all columns of a table as long as the select list is empty. -/
def setDefaultTable (k : Criteria) (table : String) : Criteria :=
  { k with tables := k.tables.insert table, defaultTable := some table }

/-! ### Tables and joins -/

/-- Puts a table into the FROM clause. -/
def addTable (k : Criteria) (table : String) : Criteria :=
  { k with tables := k.tables.insert table }

/-- Makes a name stand for a table wherever it is written as a table. -/
def addAlias (k : Criteria) (name table : String) : Criteria :=
  { k with tableAliases := k.tableAliases.put name table }

/-- The criteria with a join behind the others. -/
def pushJoin (k : Criteria) (join : Join) : Criteria :=
  { k with joins := k.joins ++ [join] }

/-- The criteria with the tables of a column of a join condition registered, except the table that
is joined. -/
def registerJoinColumn (table : String) (k : Criteria) (column : String) :
    Except QueryError Criteria :=
  (Column.tableNames column).map fun tables =>
    { k with tables := k.tables.insertAll (tables.filter (· != table)) }

/-- Joins a table by a condition. The other tables of the condition are registered. -/
def joinTable (k : Criteria) (table : String) (joinType : JoinType) (condition : Criterion) :
    Except QueryError Criteria :=
  if joinType = .cross then
    .error (.invalidArgument "cross joins take no condition, use add_cross_join")
  else
    (condition.columnRefs.foldlM (registerJoinColumn table) k).map fun k =>
      k.pushJoin ⟨joinType, table, some condition⟩

/-- Joins the table of the column on the right where the two columns are equal. -/
def joinColumns (k : Criteria) (left right : String) (joinType : JoinType) :
    Except QueryError Criteria := do
  let table? ← Column.tableName right
  match table? with
  | none => throw (.malformedColumn right)
  | some table =>
    let condition ← Criterion.columnsEq left right
    k.joinTable table joinType condition

/-- Joins every row of a table. -/
def crossJoin (k : Criteria) (table : String) : Criteria :=
  k.pushJoin ⟨.cross, table, none⟩

/-! ### Conditions -/

/-- A condition and another one joined to it, if it exists. -/
def joinCondition (conjunction : Conjunction) (old : Option Criterion) (new : Criterion) :
    Option Criterion :=
  some (match old with
    | some old => old.join conjunction new
    | none => new)

/-- Asks for a condition besides the conditions so far. -/
def andWhere (k : Criteria) (c : Criterion) : Except QueryError Criteria :=
  (k.registerCriterion c).map fun k => { k with predicate := joinCondition .and k.predicate c }

/-- Asks for a condition or else for the conditions so far. -/
def orWhere (k : Criteria) (c : Criterion) : Except QueryError Criteria :=
  (k.registerCriterion c).map fun k => { k with predicate := joinCondition .or k.predicate c }

/-- Asks for a comparison with a value besides the conditions so far. -/
def whereValue {α : Type} [ToSqlValue α] (k : Criteria) (column : String) (operator : Operator)
    (value : α) : Except QueryError Criteria :=
  (Criterion.withValue column operator value).bind k.andWhere

/-- Asks for a column with a value besides the conditions so far. -/
def whereEq {α : Type} [ToSqlValue α] (k : Criteria) (column : String) (value : α) :
    Except QueryError Criteria :=
  k.whereValue column (.relation .eq) value

/-- Asks for a condition on groups besides those so far. -/
def andHaving (k : Criteria) (c : Criterion) : Except QueryError Criteria :=
  (k.registerCriterion c).map fun k => { k with having := joinCondition .and k.having c }

/-- Lets every comparison with a text ignore case, or not. -/
def setIgnoreCase (k : Criteria) (on : Bool) : Criteria :=
  { k with ignoreCase := on }

/-! ### Groups, orders and bounds -/

/-- Groups by a column or an alias. -/
def addGroupBy (k : Criteria) (column : String) : Criteria :=
  let k := k.registerIfQualified column
  { k with groupBy := k.groupBy.insert column }

/-- Orders by a column or an alias. -/
def addOrderBy (k : Criteria) (column : String) (direction : Direction) : Criteria :=
  let k := k.registerIfQualified column
  { k with orderBy := k.orderBy.insert ⟨column, direction⟩ }

/-- Bounds the number of rows. -/
def setLimit (k : Criteria) (limit : Int) : Except QueryError Criteria :=
  if limit < 0 then
    .error (.invalidArgument ("limit must not be negative, got " ++ toString limit))
  else .ok { k with limit := some limit }

/-- Skips a number of rows. -/
def setOffset (k : Criteria) (offset : Int) : Except QueryError Criteria :=
  if offset < 0 then
    .error (.invalidArgument ("offset must not be negative, got " ++ toString offset))
  else .ok { k with offset := some offset }

/-- Asks for one page of rows, counted from 1. -/
def paginate (k : Criteria) (page perPage : Int) : Except QueryError Criteria :=
  if page < 1 ∨ perPage < 1 then
    .error (.invalidArgument ("page and per_page must be positive, got page " ++ toString page ++
      " of " ++ toString perPage))
  else
    let skipped := (page - 1) * perPage
    if Number.int64Bounds.2 < skipped then .error (.invalidArgument "page offset overflows")
    else (k.setLimit perPage).bind fun k => k.setOffset skipped

/-! ### The database -/

/-- Asks a configured database. -/
def setDatabase (k : Criteria) (name : String) : Criteria :=
  { k with databaseName := some name }

/-- The criteria that ask a configured database for nothing yet. -/
def forDatabase (name : String) : Criteria :=
  empty.setDatabase name

/-- Quotes plain column and table names, or not. -/
def setQuoteIdentifiers (k : Criteria) (on : Bool) : Criteria :=
  { k with quoteIdentifiers := on }

end Criteria

end SqlSelect
