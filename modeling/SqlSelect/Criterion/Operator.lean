/-!
# `SqlSelect.Criterion.Operator`: comparison operators

`Operator` lists the operators that a comparison may be asked for. The eight of them that have a
value or a column on their right side and stand between the two are the *relations*.
-/

set_option autoImplicit false

namespace SqlSelect

/-- An operator with an operand on either side. -/
inductive Relation where
  | eq
  | ne
  | lt
  | le
  | gt
  | ge
  | like
  | notLike
  deriving DecidableEq, Repr

/-- An operator of a comparison. -/
inductive Operator where
  | relation (r : Relation)
  | isIn
  | notIn
  | isNull
  | isNotNull
  /-- The right side is a condition in itself. -/
  | custom
  deriving DecidableEq, Repr

namespace Relation

/-- The operator in a statement; a word has blanks around it. -/
def sql : Relation → String
  | eq => "="
  | ne => "<>"
  | lt => "<"
  | le => "<="
  | gt => ">"
  | ge => ">="
  | like => " LIKE "
  | notLike => " NOT LIKE "

/-- Whether the operator matches a pattern. -/
def isPattern : Relation → Bool
  | like | notLike => true
  | _ => false

end Relation

namespace Operator

/-- All operators. -/
def all : List Operator :=
  [relation .eq, relation .ne, relation .lt, relation .le, relation .gt, relation .ge,
    relation .like, relation .notLike, isIn, notIn, isNull, isNotNull, custom]

/-- The operator in a statement. -/
def sql : Operator → String
  | relation r => r.sql
  | isIn => " IN "
  | notIn => " NOT IN "
  | isNull => " IS NULL"
  | isNotNull => " IS NOT NULL"
  | custom => ""

/-- The name of the operator. -/
def name : Operator → String
  | relation .like => "LIKE"
  | relation .notLike => "NOT LIKE"
  | relation r => r.sql
  | isIn => "IN"
  | notIn => "NOT IN"
  | isNull => "IS NULL"
  | isNotNull => "IS NOT NULL"
  | custom => "CUSTOM"

end Operator

/-- The word between the conditions of a group. -/
inductive Conjunction where
  | and
  | or
  deriving DecidableEq, Repr

/-- The word with blanks around it. -/
def Conjunction.sql : Conjunction → String
  | and => " AND "
  | or => " OR "

end SqlSelect
