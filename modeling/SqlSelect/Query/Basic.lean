import SqlSelect.Sql

/-!
# `SqlSelect.Query.Basic`: SELECT statements by clauses

A query holds the clauses of a statement. The clauses that can have values in them, joins and
conditions, are of a type of their own: as `Sql` the values are still values, as `String` they are
text. `Query.inline` and `Query.parameterized` lead from the one to the other, and `Query.text` is
the statement. Placeholders are numbered through joins, WHERE and HAVING, which is the order of the
statement.
-/

set_option autoImplicit false

namespace SqlSelect

/-- A SELECT statement by clauses. -/
structure Query (Condition : Type) where
  /-- The words behind `SELECT`. -/
  modifiers : List String := []
  /-- The select list. -/
  columns : List String := []
  /-- The entries of the FROM clause, with commas between them. -/
  sources : List String := []
  /-- The joins behind the last of them. -/
  joins : List Condition := []
  /-- The condition of the WHERE clause. -/
  filter : Option Condition := none
  groupBy : List String := []
  /-- The condition of the HAVING clause. -/
  having : Option Condition := none
  orderBy : List String := []
  /-- The clause that limits rows, with the blank in front of it. -/
  limitText : Option String := none
  /-- The text in front of the statement that makes a subquery of it. -/
  beforeText : Option String := none
  /-- The text behind the statement that makes a subquery of it. -/
  afterText : Option String := none
  deriving DecidableEq, Repr

namespace Query

/-- A clause with its items, if there are any. -/
def clauseText (keyword : String) (items : List String) : String :=
  if items.isEmpty then "" else keyword ++ String.intercalate ", " items

/-- A clause with its condition, if there is one. -/
def conditionText (keyword : String) : Option String → String
  | some condition => keyword ++ condition
  | none => ""

/-- The FROM clause with the joins, if there is anything in it. -/
def fromText (q : Query String) : String :=
  if q.sources.isEmpty && q.joins.isEmpty then ""
  else " FROM " ++ String.intercalate ", " q.sources ++ String.join (q.joins.map (" " ++ ·))

/-- The statement. -/
def text (q : Query String) : String :=
  q.beforeText.getD "" ++ "SELECT " ++ String.join (q.modifiers.map (· ++ " ")) ++
    String.intercalate ", " q.columns ++ q.fromText ++
    conditionText " WHERE " q.filter ++ clauseText " GROUP BY " q.groupBy ++
    conditionText " HAVING " q.having ++ clauseText " ORDER BY " q.orderBy ++
    q.limitText.getD "" ++ q.afterText.getD ""

/-- The values of a query in the order of their places. -/
def params (q : Query Sql) : List SqlValue :=
  q.joins.flatMap Sql.params ++ (q.filter.map Sql.params).getD [] ++
    (q.having.map Sql.params).getD []

/-- The joins with placeholders, numbered from `used + 1`. -/
def joinsWithPlaceholders (d : Dialect) (used : Nat) : List Sql → List String
  | [] => []
  | s :: rest =>
    s.withPlaceholders d used :: joinsWithPlaceholders d (used + s.params.length) rest

/-- The query with the literals of its values in their places. -/
def inline (d : Dialect) (q : Query Sql) : Query String :=
  { q with
    joins := q.joins.map (Sql.inline d)
    filter := q.filter.map (Sql.inline d)
    having := q.having.map (Sql.inline d) }

/-- The query with placeholders for its values. -/
def parameterized (d : Dialect) (q : Query Sql) : Query String :=
  let inJoins := (q.joins.flatMap Sql.params).length
  let inFilter := ((q.filter.map Sql.params).getD []).length
  { q with
    joins := joinsWithPlaceholders d 0 q.joins
    filter := q.filter.map (Sql.withPlaceholders d inJoins)
    having := q.having.map (Sql.withPlaceholders d (inJoins + inFilter)) }

end Query

end SqlSelect
