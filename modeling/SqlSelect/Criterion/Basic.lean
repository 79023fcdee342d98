import SqlSelect.Criterion.Operator
import SqlSelect.Error
import SqlSelect.Value.Conversion

/-!
# `SqlSelect.Criterion.Basic`: conditions as trees

A criterion is a comparison, or a group of criteria joined by AND or by OR. A comparison is checked
when it is built: `Test.ofOperator` decides which right sides an operator takes, so every
comparison that exists can be written. `=` and `<>` with NULL become tests for NULL.

* `Criterion.comparisons_join`: the comparisons of two criteria that are joined.
-/

set_option autoImplicit false

namespace SqlSelect

/-- The right side of a comparison. -/
inductive Operand where
  | column (name : String)
  | value (v : SqlValue)

/-- What is tested about the column on the left of a comparison. -/
inductive Test where
  /-- Whether it is NULL, or is not. -/
  | nullness (negated : Bool)
  /-- Whether it is in a list, or is not. -/
  | membership (negated : Bool) (values : List SqlValue)
  /-- Whether it stands in a relation to the right side. -/
  | relation (r : Relation) (right : Operand)
  /-- A condition in itself, which need not mention the column. -/
  | raw (sql : String)

/-- A test of a column expression. -/
structure Comparison where
  column : String
  test : Test
  ignoreCase : Bool

/-- A condition. -/
inductive Criterion where
  | comparison (c : Comparison)
  | group (conjunction : Conjunction) (children : List Criterion)

/-! ### Checked comparisons -/

/-- Why a right side does not go with an operator. -/
inductive OperandFault where
  | superfluous
  | missing
  | noList
  | nestedList
  | aList
  | null
  | notFinite
  | noSqlText
  | noPattern
  deriving DecidableEq, Repr

/-- The fault in words. -/
def OperandFault.message : OperandFault → String
  | superfluous => "takes no right operand"
  | missing => "requires a right operand"
  | noList => "requires a list of values"
  | nestedList => "list values cannot be nested lists"
  | aList => "cannot compare against a list"
  | null => "cannot compare against NULL"
  | notFinite => "cannot compare against NaN or infinity"
  | noSqlText => "requires SQL text"
  | noPattern => "requires a text pattern"

namespace Test

/-- The test for NULL, which may have NULL on its right side. -/
def ofNullness (negated : Bool) : Option Operand → Except OperandFault Test
  | none | some (.value .null) => .ok (nullness negated)
  | some _ => .error .superfluous

/-- The test whether the column is in a list of finite values that are no lists. -/
def ofMembership (negated : Bool) : Option Operand → Except OperandFault Test
  | some (.value (.array values)) =>
    if values.any SqlValue.isArray then .error .nestedList
    else if values.any SqlValue.isNonFinite then .error .notFinite
    else .ok (membership negated values)
  | _ => .error .noList

/-- The condition that a text or SQL text spells out. -/
def ofRaw : Option Operand → Except OperandFault Test
  | some (.value (.string sql)) => .ok (raw sql)
  | some (.value (.verbatim sql)) => .ok (raw sql)
  | _ => .error .noSqlText

/-- The relation to NULL, which is a test for NULL or makes no sense. -/
def ofNull : Relation → Except OperandFault Test
  | .eq => .ok (nullness false)
  | .ne => .ok (nullness true)
  | _ => .error .null

/-- The relation to a column or to a finite value that is no list; a pattern is a text. -/
def ofRelation (r : Relation) : Option Operand → Except OperandFault Test
  | none => .error .missing
  | some (.column name) => .ok (relation r (.column name))
  | some (.value v) =>
    if v.isArray then .error .aList
    else if v.isNull then ofNull r
    else if v.isNonFinite then .error .notFinite
    else if r.isPattern && !(v.isText || v.isVerbatim) then .error .noPattern
    else .ok (relation r (.value v))

/-- The test that an operator with a right side stands for. -/
def ofOperator : Operator → Option Operand → Except OperandFault Test
  | .isNull, right => ofNullness false right
  | .isNotNull, right => ofNullness true right
  | .isIn, right => ofMembership false right
  | .notIn, right => ofMembership true right
  | .custom, right => ofRaw right
  | .relation r, right => ofRelation r right

end Test

namespace Comparison

/-- The operator of a comparison. -/
def operator (c : Comparison) : Operator :=
  match c.test with
  | .nullness false => .isNull
  | .nullness true => .isNotNull
  | .membership false _ => .isIn
  | .membership true _ => .notIn
  | .relation r _ => .relation r
  | .raw _ => .custom

/-- The right side of a comparison; a raw condition is SQL text. -/
def right? (c : Comparison) : Option Operand :=
  match c.test with
  | .nullness _ => none
  | .membership _ values => some (.value (.array values))
  | .relation _ right => some right
  | .raw sql => some (.value (.verbatim sql))

/-- The column expressions of a comparison, the left one first. -/
def columns (c : Comparison) : List String :=
  match c.test with
  | .relation _ (.column other) => [c.column, other]
  | _ => [c.column]

end Comparison

namespace Criterion

/-- A comparison of a column by an operator with a right side. -/
def compare (column : String) (operator : Operator) (right : Option Operand)
    (ignoreCase : Bool) : Except QueryError Criterion :=
  match Test.ofOperator operator right with
  | .ok test => .ok (comparison ⟨column, test, ignoreCase⟩)
  | .error fault => .error (.invalidOperator operator.name fault.message)

/-- A comparison of a column with a value. -/
def withValue {α : Type} [ToSqlValue α] (column : String) (operator : Operator) (value : α) :
    Except QueryError Criterion :=
  compare column operator (some (.value (toSqlValue value))) false

/-- Whether a column is one of the values. -/
def isIn {α : Type} [ToSqlValue α] (column : String) (values : List α) :
    Except QueryError Criterion :=
  withValue column .isIn (SqlValue.ofList values)

/-- Whether a column is none of the values. -/
def notIn {α : Type} [ToSqlValue α] (column : String) (values : List α) :
    Except QueryError Criterion :=
  withValue column .notIn (SqlValue.ofList values)

/-- Whether a column is NULL. -/
def isNull (column : String) : Except QueryError Criterion :=
  compare column .isNull none false

/-- Whether a column is not NULL. -/
def isNotNull (column : String) : Except QueryError Criterion :=
  compare column .isNotNull none false

/-- A comparison of two columns. -/
def columns (left : String) (operator : Operator) (right : String) :
    Except QueryError Criterion :=
  compare left operator (some (.column right)) false

/-- Whether two columns are equal. -/
def columnsEq (left right : String) : Except QueryError Criterion :=
  columns left (.relation .eq) right

/-- A condition given as SQL text; the text also stands for its column. -/
def custom (sql : String) : Criterion :=
  comparison ⟨sql, .raw sql, false⟩

/-- The criteria of a list as one group; there must be at least one. -/
def ofList (conjunction : Conjunction) (children : List Criterion) :
    Except QueryError Criterion :=
  if children.isEmpty then
    .error (.invalidArgument "a criterion group needs at least one child")
  else .ok (group conjunction children)

/-! ### Operations on trees -/

mutual

/-- The criterion with every comparison of it ignoring case. -/
def ignoreCase : Criterion → Criterion
  | comparison c => comparison { c with ignoreCase := true }
  | group conjunction children => group conjunction (ignoreCaseAll children)

/-- The criteria with every comparison of them ignoring case. -/
def ignoreCaseAll : List Criterion → List Criterion
  | [] => []
  | child :: children => ignoreCase child :: ignoreCaseAll children

end

/-- Two criteria in one group; where the first one is such a group already, the second one joins
it. -/
def join (conjunction : Conjunction) (left right : Criterion) : Criterion :=
  match left with
  | group inner children =>
    if inner = conjunction then group inner (children ++ [right])
    else group conjunction [left, right]
  | comparison _ => group conjunction [left, right]

/-- Both criteria. -/
def and (left right : Criterion) : Criterion :=
  join .and left right

/-- Either criterion. -/
def or (left right : Criterion) : Criterion :=
  join .or left right

mutual

/-- The comparisons of a criterion, from left to right. -/
def comparisons : Criterion → List Comparison
  | comparison c => [c]
  | group _ children => comparisonsOfAll children

/-- The comparisons of the criteria of a list, from left to right. -/
def comparisonsOfAll : List Criterion → List Comparison
  | [] => []
  | child :: children => comparisons child ++ comparisonsOfAll children

end

/-- The comparisons of two lists of criteria stand one behind the other. -/
theorem comparisonsOfAll_append (xs ys : List Criterion) :
    comparisonsOfAll (xs ++ ys) = comparisonsOfAll xs ++ comparisonsOfAll ys := by
  induction xs with
  | nil => rfl
  | cons x xs ih => simp [comparisonsOfAll, ih]

/-- Two criteria that are joined keep their comparisons, in whichever group they end up. -/
theorem comparisons_join (conjunction : Conjunction) (left right : Criterion) :
    (left.join conjunction right).comparisons = left.comparisons ++ right.comparisons := by
  cases left with
  | comparison c => simp [join, comparisons, comparisonsOfAll]
  | group inner children =>
    unfold join
    dsimp only
    split
    · simp [comparisons, comparisonsOfAll, comparisonsOfAll_append]
    · simp [comparisons, comparisonsOfAll]

/-- The column expressions of a criterion, from left to right. -/
def columnRefs (c : Criterion) : List String :=
  c.comparisons.flatMap Comparison.columns

end Criterion

end SqlSelect
