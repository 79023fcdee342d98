import SqlSelect.Column.Identifier
import SqlSelect.Criterion.Basic
import SqlSelect.Criterion.Pattern
import SqlSelect.Sql

/-!
# `SqlSelect.Criterion.Condition`: criteria as SQL conditions

`Criterion.sql` writes a criterion. A group stands between parentheses only inside a group of the
other conjunction, and a group of one criterion is written as that criterion.

NULL in a list is taken out of it, since `IN` never finds it: a test for NULL stands beside the
list instead. A pattern without wildcards is compared for equality.
-/

set_option autoImplicit false

namespace SqlSelect

/-- How conditions are written: the dialect, whether plain column and table names are quoted, and
whether every comparison with a text ignores case. -/
structure Style where
  dialect : Dialect
  quoteIdentifiers : Bool := false
  ignoreCase : Bool := false

namespace Style

/-- A column or table expression; only plain paths are quoted. -/
def identifier (style : Style) (expression : String) : String :=
  if style.quoteIdentifiers && Column.isIdentifierPath expression then
    style.dialect.quoteIdentifier expression
  else expression

/-- A value, with its letter case ignored or not. -/
def value (style : Style) (fold : Bool) (v : SqlValue) : Sql :=
  Sql.ofValue style.dialect fold v

/-- An expression without values, with its letter case ignored or not. -/
def expression (style : Style) (fold : Bool) (text : String) : Sql :=
  Sql.ofText (style.dialect.foldedText fold text)

end Style

/-- The test for NULL in a statement. -/
def nullTestSql (negated : Bool) : String :=
  if negated then Operator.isNotNull.sql else Operator.isNull.sql

namespace Test

/-- An operand, an operator and an operand; if the case of the left one is ignored, so it is in the
right one. -/
def relationSql (style : Style) (fold : Bool) (left operator : String) (right : Sql) : Sql :=
  style.expression fold left ++ Sql.ofText operator ++ right

/-- A comparison with a value; case is ignored for texts only. -/
def valueSql (style : Style) (ignoreCase : Bool) (column : String) (r : Relation)
    (v : SqlValue) : Sql :=
  let fold := ignoreCase && v.isText
  relationSql style fold column r.sql (style.value fold v)

/-- The relation that a pattern without wildcards is compared by. -/
def equality (negated : Bool) : Relation :=
  if negated then .ne else .eq

/-- A comparison with a pattern. -/
def patternSql (style : Style) (ignoreCase : Bool) (column : String) (negated : Bool)
    (pattern : String) : Sql :=
  let p := LikePattern.ofText pattern
  let r : Relation := if negated then .notLike else .like
  if !p.hasWildcard then
    valueSql style ignoreCase column (equality negated) (.string (String.ofList p.literal))
  else
    let right := SqlValue.string (String.ofList p.pattern)
    match ignoreCase, style.dialect.caseInsensitiveLike negated with
    | true, some native => relationSql style false column native (style.value false right)
    | fold, _ => relationSql style fold column r.sql (style.value fold right)

/-- A list with the test for it; there is at least one value, and none is NULL. -/
def listSql (style : Style) (ignoreCase : Bool) (column : String) (negated : Bool)
    (values : List SqlValue) : Sql :=
  let fold := ignoreCase && values.any SqlValue.isText
  let operator : Operator := if negated then .notIn else .isIn
  let items := values.map fun v => style.value (fold && v.isText) v
  relationSql style fold column operator.sql (Sql.joinWith "," items).parenthesized

/-- The test whether a column is in a list. -/
def membershipSql (style : Style) (ignoreCase : Bool) (column : String) (negated : Bool)
    (values : List SqlValue) : Sql :=
  let known := values.filter fun v => !v.isNull
  let hasNull := values.any SqlValue.isNull
  let nullTest := Sql.ofText (column ++ nullTestSql negated)
  if known.isEmpty then
    if hasNull then nullTest else Sql.ofText (if negated then "1=1" else "1<>1")
  else
    let list := listSql style ignoreCase column negated known
    let conjunction : Conjunction := if negated then .and else .or
    if hasNull then (list ++ Sql.ofText conjunction.sql ++ nullTest).parenthesized else list

end Test

/-- A comparison as a condition. The style's flag for letter case reaches texts only, the
comparison's own flag also two columns. -/
def Comparison.sql (style : Style) (c : Comparison) : Sql :=
  let ignoreCase := c.ignoreCase || style.ignoreCase
  let column := style.identifier c.column
  match c.test with
  | .nullness negated => Sql.ofText (column ++ nullTestSql negated)
  | .raw sql => Sql.ofText sql
  | .membership negated values => Test.membershipSql style ignoreCase column negated values
  | .relation r (.column other) =>
    Test.relationSql style c.ignoreCase column r.sql
      (style.expression c.ignoreCase (style.identifier other))
  | .relation .like (.value (.string pattern)) =>
    Test.patternSql style ignoreCase column false pattern
  | .relation .notLike (.value (.string pattern)) =>
    Test.patternSql style ignoreCase column true pattern
  | .relation r (.value v) => Test.valueSql style ignoreCase column r v

namespace Criterion

mutual

/-- A criterion inside a group with the conjunction `parent`, or at the top. -/
def sqlWithin (style : Style) (parent : Option Conjunction) : Criterion → Sql
  | comparison c => c.sql style
  | group _ [only] => sqlWithin style parent only
  | group conjunction children =>
    let condition := Sql.joinWith conjunction.sql (sqlOfAll style conjunction children)
    match parent with
    | some outer => if outer = conjunction then condition else condition.parenthesized
    | none => condition

/-- The criteria of a group with the conjunction `parent`. -/
def sqlOfAll (style : Style) (parent : Conjunction) : List Criterion → List Sql
  | [] => []
  | child :: children => sqlWithin style (some parent) child :: sqlOfAll style parent children

end

/-- A criterion as a condition. -/
def sql (style : Style) (c : Criterion) : Sql :=
  c.sqlWithin style none

end Criterion

end SqlSelect
