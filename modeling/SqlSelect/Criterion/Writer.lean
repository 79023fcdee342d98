import SqlSelect.Criterion.Condition

/-!
# `SqlSelect.Criterion.Writer`: conditions written from left to right

A statement is written for one mode. In `RenderMode.inline` a value becomes its literal. In
`RenderMode.parameterized` it is put behind the values bound so far, and the placeholder of its
number stands in the text. The values bound so far are the state of `Writing`, so the number of a
placeholder depends on everything in front of it.

`Criterion.write` writes a condition. It makes the decisions of `Criterion.sql`, which keeps the
values in the text and leaves the mode open.
-/

set_option autoImplicit false

namespace SqlSelect

/-- How the values of a statement reach the database. -/
inductive RenderMode where
  /-- As literals in the text. -/
  | inline
  /-- As parameters, with placeholders in the text. -/
  | parameterized
  deriving DecidableEq, Repr

/-- A part of a statement that is being written; the state holds the values bound so far. -/
abbrev Writing := StateM (List SqlValue)

/-- How a statement is written. -/
structure Writer extends Style where
  mode : RenderMode

/-- Writes a value: as a placeholder if it is bound, and as its literal otherwise. -/
def Writer.value (w : Writer) (v : SqlValue) : Writing String :=
  match w.mode with
  | .parameterized =>
    if v.isBindable then do
      modify (· ++ [v])
      return w.dialect.placeholder (← get).length
    else return v.literal w.dialect
  | .inline => return v.literal w.dialect

namespace Test

/-- An operand, an operator and an operand, both operands with their letter case ignored or not. -/
def relationText (d : Dialect) (fold : Bool) (left operator right : String) : String :=
  d.foldedText fold left ++ operator ++ d.foldedText fold right

/-- Writes a comparison with a value; case is ignored for texts only. -/
def writeValue (w : Writer) (ignoreCase : Bool) (column : String) (r : Relation)
    (v : SqlValue) : Writing String := do
  let written ← w.value v
  return relationText w.dialect (ignoreCase && v.isText) column r.sql written

/-- Writes a comparison with a pattern. -/
def writePattern (w : Writer) (ignoreCase : Bool) (column : String) (negated : Bool)
    (pattern : String) : Writing String :=
  let p := LikePattern.ofText pattern
  let r : Relation := if negated then .notLike else .like
  if !p.hasWildcard then
    writeValue w ignoreCase column (equality negated) (.string (String.ofList p.literal))
  else do
    let right ← w.value (.string (String.ofList p.pattern))
    return match ignoreCase, w.dialect.caseInsensitiveLike negated with
      | true, some native => relationText w.dialect false column native right
      | fold, _ => relationText w.dialect fold column r.sql right

/-- Writes a list with the test for it; there is at least one value, and none is NULL. -/
def writeList (w : Writer) (ignoreCase : Bool) (column : String) (negated : Bool)
    (values : List SqlValue) : Writing String := do
  let fold := ignoreCase && values.any SqlValue.isText
  let operator : Operator := if negated then .notIn else .isIn
  let items ← values.mapM fun v => do
    let written ← w.value v
    return w.dialect.foldedText (fold && v.isText) written
  return w.dialect.foldedText fold column ++ operator.sql ++
    "(" ++ String.intercalate "," items ++ ")"

/-- Writes the test whether a column is in a list. -/
def writeMembership (w : Writer) (ignoreCase : Bool) (column : String) (negated : Bool)
    (values : List SqlValue) : Writing String :=
  let known := values.filter fun v => !v.isNull
  let hasNull := values.any SqlValue.isNull
  let nullTest := column ++ nullTestSql negated
  if known.isEmpty then
    return if hasNull then nullTest else if negated then "1=1" else "1<>1"
  else do
    let list ← writeList w ignoreCase column negated known
    let conjunction : Conjunction := if negated then .and else .or
    return if hasNull then "(" ++ list ++ conjunction.sql ++ nullTest ++ ")" else list

end Test

/-- Writes a comparison. -/
def Comparison.write (w : Writer) (c : Comparison) : Writing String :=
  let ignoreCase := c.ignoreCase || w.ignoreCase
  let column := w.identifier c.column
  match c.test with
  | .nullness negated => return column ++ nullTestSql negated
  | .raw sql => return sql
  | .membership negated values => Test.writeMembership w ignoreCase column negated values
  | .relation r (.column other) =>
    return Test.relationText w.dialect c.ignoreCase column r.sql (w.identifier other)
  | .relation .like (.value (.string pattern)) =>
    Test.writePattern w ignoreCase column false pattern
  | .relation .notLike (.value (.string pattern)) =>
    Test.writePattern w ignoreCase column true pattern
  | .relation r (.value v) => Test.writeValue w ignoreCase column r v

namespace Criterion

mutual

/-- Writes a criterion inside a group with the conjunction `parent`, or at the top. -/
def writeWithin (w : Writer) (parent : Option Conjunction) : Criterion → Writing String
  | comparison c => c.write w
  | group _ [only] => writeWithin w parent only
  | group conjunction children => do
    let parts ← writeAll w conjunction children
    let condition := String.intercalate conjunction.sql parts
    return match parent with
      | some outer => if outer = conjunction then condition else "(" ++ condition ++ ")"
      | none => condition

/-- Writes the criteria of a group with the conjunction `parent`, one after the other. -/
def writeAll (w : Writer) (parent : Conjunction) : List Criterion → Writing (List String)
  | [] => return []
  | child :: children => do
    let first ← writeWithin w (some parent) child
    let rest ← writeAll w parent children
    return first :: rest

end

/-- Writes a criterion as a condition. -/
def write (w : Writer) (c : Criterion) : Writing String :=
  c.writeWithin w none

end Criterion

end SqlSelect
