import SqlSelect.Config.Basic
import SqlSelect.Registry.Dialects

/-!
# `SqlSelect.Registry.Databases`: databases with their dialects

A registry of databases holds the dialect of each, and the name of the default one. The first
database registered is the default until another one is made so, and the default one cannot be
removed.
-/

set_option autoImplicit false

namespace SqlSelect

open Text

/-- A database with its dialect. -/
structure DatabaseEntry where
  name : String
  dialect : Dialect
  quoteIdentifiers : Bool

/-- The database as it is shown to a developer. -/
def DatabaseEntry.shown (e : DatabaseEntry) : String :=
  "DatabaseEntry \x7b name: " ++ showQuoted e.name ++ ", dialect: " ++
    showQuoted e.dialect.name ++ ", quote_identifiers: " ++
    (if e.quoteIdentifiers then "true" else "false") ++ " \x7d"

/-- Databases under their names, and the name of the default one. -/
structure DatabaseRegistry where
  databases : NamedList DatabaseEntry := .empty
  default : Option String := none

namespace DatabaseRegistry

/-- The registry without databases. -/
def empty : DatabaseRegistry := {}

instance : Inhabited DatabaseRegistry := ⟨empty⟩

/-- The names of the databases. -/
def names (r : DatabaseRegistry) : List String := r.databases.names

/-- The number of databases. -/
def size (r : DatabaseRegistry) : Nat := r.databases.size

/-- The database with a name. -/
def get? (r : DatabaseRegistry) (name : String) : Option DatabaseEntry :=
  r.databases.get? name

/-- Whether there is a database with a name. -/
def contains (r : DatabaseRegistry) (name : String) : Bool :=
  r.databases.contains name

/-- Registers a database, in the place of the one with its name. A single database is the
default. -/
def register (r : DatabaseRegistry) (entry : DatabaseEntry) (asDefault : Bool) :
    DatabaseRegistry :=
  let databases := r.databases.put entry.name entry
  { databases
    default := if asDefault || databases.size == 1 then some entry.name else r.default }

/-- The database with a name. -/
def get (r : DatabaseRegistry) (name : String) : Except QueryError DatabaseEntry :=
  match r.get? name with
  | some entry => .ok entry
  | none => .error (.unknownDatabase name)

/-- The default database. -/
def getDefault (r : DatabaseRegistry) : Except QueryError DatabaseEntry :=
  match r.default with
  | some name => r.get name
  | none => .error (.unknownDatabase "no default database configured")

/-- The database with a name, or the default one. -/
def resolve (r : DatabaseRegistry) : Option String → Except QueryError DatabaseEntry
  | some name => r.get name
  | none => r.getDefault

/-- Makes a database the default one. -/
def setDefault (r : DatabaseRegistry) (name : String) : Except QueryError DatabaseRegistry :=
  if r.contains name then .ok { r with default := some name }
  else .error (.unknownDatabase name)

/-- Removes a database other than the default one. -/
def remove (r : DatabaseRegistry) (name : String) : Except QueryError DatabaseRegistry :=
  if r.default = some name then
    .error (.invalidArgument
      "Cannot remove the default database. Set a different default first.")
  else if r.contains name then .ok { r with databases := r.databases.erase name }
  else .error (.unknownDatabase name)

/-! ### Registries of configurations -/

/-- Registers a configured database with the dialect that its adapter stands for. -/
def registerConfigured (dialects : DialectRegistry) (defaultName : Option String)
    (r : DatabaseRegistry) (entry : String × DatabaseConfig) :
    Except QueryError DatabaseRegistry :=
  match entry.2.adapterKey with
  | .error fault => .error fault.toError
  | .ok key =>
    (dialects.lookup key).map fun dialect =>
      r.register ⟨entry.1, dialect, entry.2.quoteIdentifiers⟩ (defaultName == some entry.1)

/-- The registry of a valid configuration whose adapters are all registered. -/
def ofConfigWith (config : DatabasesConfig) (dialects : DialectRegistry) :
    Except QueryError DatabaseRegistry :=
  match config.validate with
  | .error fault => .error fault.toError
  | .ok () =>
    config.databases.entries.foldlM
      (registerConfigured dialects (config.getDefault?.map Prod.fst)) empty

/-- The registry of a valid configuration of built-in products. -/
def ofConfig (config : DatabasesConfig) : Except QueryError DatabaseRegistry :=
  ofConfigWith config .builtin

end DatabaseRegistry

end SqlSelect
