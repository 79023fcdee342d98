import SqlSelect.Criteria.Statement
import SqlSelect.Registry.Databases

/-!
# `SqlSelect.Registry.Statement`: statements for configured databases

Criteria that name a database are written in its dialect, and all others in that of the default
one. The identifiers are quoted if the criteria or the database ask for it.
-/

set_option autoImplicit false

namespace SqlSelect.DatabaseRegistry

/-- The database that criteria ask. -/
def databaseFor (r : DatabaseRegistry) (k : Criteria) : Except QueryError DatabaseEntry :=
  r.resolve k.databaseName

/-- The statement of criteria with the literals of its values. -/
def inline (r : DatabaseRegistry) (k : Criteria) : Except QueryError String :=
  (r.databaseFor k).bind fun e => k.inlineWith e.dialect e.quoteIdentifiers

/-- The statement of criteria with placeholders, and their values. -/
def parameterized (r : DatabaseRegistry) (k : Criteria) :
    Except QueryError (String × List SqlValue) :=
  (r.databaseFor k).bind fun e => k.parameterizedWith e.dialect e.quoteIdentifiers

/-- The warnings that go with the statement of criteria. -/
def warnings (r : DatabaseRegistry) (k : Criteria) : List String :=
  match r.databaseFor k with
  | .ok e => k.warnings e.dialect e.quoteIdentifiers
  | .error _ => []

end SqlSelect.DatabaseRegistry
