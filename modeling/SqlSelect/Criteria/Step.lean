import SqlSelect.Criteria.Basic

/-!
# `SqlSelect.Criteria.Step`: building as a run of steps

A `Step` is one call of a builder function with its arguments, and `Step.apply` makes the call.
`Criteria.ofSteps` starts with the criteria that ask for nothing and makes one call after the other;
it fails with the first step that fails. The criteria that a program can build are the results of
`Criteria.ofSteps`.
-/

set_option autoImplicit false

namespace SqlSelect

/-- A step of building. -/
inductive Step where
  | select (column : String)
  | selectAs (name expression : String)
  | setDistinct (on : Bool)
  | setDefaultTable (table : String)
  | addTable (table : String)
  | addAlias (name table : String)
  | joinTable (table : String) (joinType : JoinType) (condition : Criterion)
  | joinColumns (left right : String) (joinType : JoinType)
  | crossJoin (table : String)
  | andWhere (c : Criterion)
  | orWhere (c : Criterion)
  | whereValue (column : String) (operator : Operator) (value : SqlValue)
  | whereEq (column : String) (value : SqlValue)
  | andHaving (c : Criterion)
  | setIgnoreCase (on : Bool)
  | addGroupBy (column : String)
  | addOrderBy (column : String) (direction : Direction)
  | setLimit (limit : Int)
  | setOffset (offset : Int)
  | paginate (page perPage : Int)
  | setDatabase (name : String)
  | setQuoteIdentifiers (on : Bool)

/-- The criteria after a step. -/
def Step.apply (k : Criteria) : Step → Except QueryError Criteria
  | select column => k.select column
  | selectAs name expression => k.selectAs name expression
  | setDistinct on => .ok (k.setDistinct on)
  | setDefaultTable table => .ok (k.setDefaultTable table)
  | addTable table => .ok (k.addTable table)
  | addAlias name table => .ok (k.addAlias name table)
  | joinTable table joinType condition => k.joinTable table joinType condition
  | joinColumns left right joinType => k.joinColumns left right joinType
  | crossJoin table => .ok (k.crossJoin table)
  | andWhere c => k.andWhere c
  | orWhere c => k.orWhere c
  | whereValue column operator value => k.whereValue column operator value
  | whereEq column value => k.whereEq column value
  | andHaving c => k.andHaving c
  | setIgnoreCase on => .ok (k.setIgnoreCase on)
  | addGroupBy column => .ok (k.addGroupBy column)
  | addOrderBy column direction => .ok (k.addOrderBy column direction)
  | setLimit limit => k.setLimit limit
  | setOffset offset => k.setOffset offset
  | paginate page perPage => k.paginate page perPage
  | setDatabase name => .ok (k.setDatabase name)
  | setQuoteIdentifiers on => .ok (k.setQuoteIdentifiers on)

/-- The criteria that steps build. -/
def Criteria.ofSteps (steps : List Step) : Except QueryError Criteria :=
  steps.foldlM Step.apply Criteria.empty

end SqlSelect
