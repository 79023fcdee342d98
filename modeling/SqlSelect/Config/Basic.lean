import SqlSelect.Config.FileSystem
import SqlSelect.Dialect.Backend
import SqlSelect.NamedList
import SqlSelect.Text.Quoted

/-!
# `SqlSelect.Config.Basic`: configured databases

A configuration names databases, says for each one which adapter writes its SQL, and may name a
default. `DatabasesConfig.validate` checks that the default exists, that at most one database is
marked as default, and that every database has an adapter; an adapter is not looked up here, so one
that is unknown may still be registered before use.
-/

set_option autoImplicit false

namespace SqlSelect

open Text

/-- What is wrong with a configuration. -/
inductive ConfigFault where
  | noAdapter
  | unknownUrl (url : String)
  | unknownDefault (name : String)
  | severalDefaults (names : List String)
  /-- A fault of one database. -/
  | ofDatabase (name : String) (fault : ConfigFault)
  /-- A text that is no document of the right form. -/
  | malformed
  /-- A path that names no file to read. -/
  | unreadable (path : String) (fault : PathFault)
  /-- A fault of the configuration in a file. -/
  | inFile (path : String) (fault : ConfigFault)
  deriving Repr

/-- The fault in words. A fault of one database is quoted with the words of a whole error. A
malformed text is not told apart by its file. -/
def ConfigFault.message : ConfigFault → String
  | noAdapter => "Database needs an adapter or a URL"
  | unknownUrl url => "Cannot detect the database adapter from URL '" ++ url ++ "'"
  | unknownDefault name => "Default database '" ++ name ++ "' is not configured"
  | severalDefaults names =>
    "Several databases are marked as default: " ++ showQuotedList names
  | ofDatabase name fault =>
    "Database '" ++ name ++ "': " ++ (QueryError.config fault.message).message
  | malformed => "Failed to parse database config"
  | unreadable path fault => "Failed to read config file '" ++ path ++ "': " ++ fault.message
  | inFile _ malformed => malformed.message
  | inFile path fault => fault.message ++ " (" ++ path ++ ")"

/-- The fault as an error. -/
def ConfigFault.toError (fault : ConfigFault) : QueryError :=
  .config fault.message

/-- A configured database. -/
structure DatabaseConfig where
  /-- The key of the dialect. -/
  adapter : Option String := none
  /-- The connection URL, whose scheme stands in for a missing adapter. -/
  url : Option String := none
  /-- Whether the database is marked as the default one. -/
  isDefault : Bool := false
  quoteIdentifiers : Bool := false
  deriving DecidableEq, Repr

/-- The key of the dialect of a database. -/
def DatabaseConfig.adapterKey (c : DatabaseConfig) : Except ConfigFault String :=
  match c.adapter, c.url with
  | some adapter, _ => .ok (Backend.normalName adapter)
  | none, some url =>
    match Backend.ofUrl? url with
    | some b => .ok b.key
    | none => .error (.unknownUrl url)
  | none, none => .error .noAdapter

/-- A database, if it has an adapter. -/
def DatabaseConfig.checked (c : DatabaseConfig) : Except ConfigFault DatabaseConfig :=
  c.adapterKey.map fun _ => c

/-- Databases under their names, and the name of the default one. -/
structure DatabasesConfig where
  default : Option String := none
  databases : NamedList DatabaseConfig := .empty

namespace DatabasesConfig

/-- The configuration without databases. -/
def empty : DatabasesConfig := {}

instance : Inhabited DatabasesConfig := ⟨empty⟩

/-- Configures a database. -/
def add (config : DatabasesConfig) (name : String) (database : DatabaseConfig) :
    DatabasesConfig :=
  { config with databases := config.databases.put name database }

/-- The default database with its name: the one named so, otherwise the first one marked so,
otherwise the first one. A default that is not configured is none. -/
def getDefault? (config : DatabasesConfig) : Option (String × DatabaseConfig) :=
  match config.default with
  | some name => (config.databases.get? name).map fun database => (name, database)
  | none =>
    match config.databases.entries.find? fun entry => entry.2.isDefault with
    | some entry => some entry
    | none => config.databases.entries.head?

/-- The configuration with the databases of another one, and with its default if it has one. -/
def merge (config other : DatabasesConfig) : DatabasesConfig where
  default := other.default.or config.default
  databases := config.databases.putAll other.databases

/-- The databases marked as default. -/
def marked (config : DatabasesConfig) : List String :=
  (config.databases.entries.filter fun entry => entry.2.isDefault).map Prod.fst

/-- Checks that the default exists. -/
def checkDefault (config : DatabasesConfig) : Except ConfigFault Unit :=
  match config.default with
  | some name => if config.databases.contains name then .ok () else .error (.unknownDefault name)
  | none => .ok ()

/-- Checks that at most one database is marked as default. -/
def checkMarked (config : DatabasesConfig) : Except ConfigFault Unit :=
  if 1 < config.marked.length then .error (.severalDefaults config.marked) else .ok ()

/-- Checks that a database has an adapter. -/
def checkEntry (entry : String × DatabaseConfig) : Except ConfigFault Unit :=
  match entry.2.adapterKey with
  | .ok _ => .ok ()
  | .error fault => .error (.ofDatabase entry.1 fault)

/-- Checks the default, the marks and the adapters, in this order. -/
def validate (config : DatabasesConfig) : Except ConfigFault Unit := do
  config.checkDefault
  config.checkMarked
  config.databases.entries.forM checkEntry

end DatabasesConfig

end SqlSelect
