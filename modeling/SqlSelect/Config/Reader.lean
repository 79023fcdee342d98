import SqlSelect.Config.Basic
import SqlSelect.Toml.Reader

/-!
# `SqlSelect.Config.Reader`: configurations in TOML

A configuration is written as a TOML document with the key `default` and a table `databases` of
tables. The table of a database may also be written as the array of its values in their order, of
which those behind the last field are not looked at; a date or a time stands for one without any
field. Other keys are ignored as long as their values can be represented, and missing ones have
their defaults. The databases stand in the order of their names, whatever the order of the document.
-/

set_option autoImplicit false

namespace SqlSelect

open Toml (Value)

namespace DatabaseConfig

/-- The text of an optional value. -/
def readText? : Option Value → Option (Option String)
  | none => some none
  | some (.string s) => some (some s)
  | some _ => none

/-- The flag of an optional value. -/
def readFlag? : Option Value → Option Bool
  | none => some false
  | some (.boolean b) => some b
  | some _ => none

/-- The database of the values of its fields. -/
def ofFields? (adapter url isDefault quoteIdentifiers : Option Value) : Option DatabaseConfig := do
  let adapter ← readText? adapter
  let url ← readText? url
  let isDefault ← readFlag? isDefault
  let quoteIdentifiers ← readFlag? quoteIdentifiers
  return { adapter, url, isDefault, quoteIdentifiers }

/-- The keys of the fields. -/
def fieldKeys : List String :=
  ["adapter", "url", "is_default", "quote_identifiers"]

/-- The database that a value describes. -/
def ofValue? : Value → Option DatabaseConfig
  | .table entries =>
    if Toml.haveRepresentable (entries.filter fun entry => !fieldKeys.contains entry.1) then
      ofFields? (entries.lookup "adapter") (entries.lookup "url") (entries.lookup "is_default")
        (entries.lookup "quote_identifiers")
    else none
  | .array items => ofFields? items[0]? items[1]? items[2]? items[3]?
  | .dateTime _ => ofFields? none none none none
  | _ => none

end DatabaseConfig

namespace DatabasesConfig

/-- Puts a named value at its place in the order of the names. -/
def insertSorted {α : Type} (entry : String × α) : List (String × α) → List (String × α)
  | [] => [entry]
  | first :: rest =>
    if entry.1 < first.1 then entry :: first :: rest else first :: insertSorted entry rest

/-- Named values in the order of their names. -/
def sortByName {α : Type} (entries : List (String × α)) : List (String × α) :=
  entries.foldr insertSorted []

/-- The database that a named value describes, with its name. -/
def readEntry? (entry : String × Value) : Option (String × DatabaseConfig) :=
  (DatabaseConfig.ofValue? entry.2).map fun database => (entry.1, database)

/-- The databases of an optional value, which is a table of them. -/
def readDatabases? : Option Value → Option (NamedList DatabaseConfig)
  | none => some .empty
  | some (.table entries) => (entries.mapM readEntry?).map fun databases =>
    NamedList.ofEntries (sortByName databases)
  | some _ => none

/-- The configuration of a document. -/
def ofDocument? (entries : List (String × Value)) : Option DatabasesConfig := do
  let others := entries.filter fun entry => entry.1 != "default" && entry.1 != "databases"
  if !Toml.haveRepresentable others then none
  let default ← DatabaseConfig.readText? (entries.lookup "default")
  let databases ← readDatabases? (entries.lookup "databases")
  return { default, databases }

/-- Reads and validates a configuration. -/
def read (text : String) : Except ConfigFault DatabasesConfig :=
  match (Toml.read? text).bind ofDocument? with
  | none => .error .malformed
  | some config => config.validate.map fun _ => config

/-- Reads and validates the configuration in a file with the given text. -/
def readFrom (path text : String) : Except ConfigFault DatabasesConfig :=
  match read text with
  | .ok config => .ok config
  | .error fault => .error (.inFile path fault)

/-- Reads and validates the configuration in the file that a path names. -/
def load (files : FileSystem) (path : String) : Except ConfigFault DatabasesConfig :=
  match files.read path with
  | .ok text => readFrom path text
  | .error fault => .error (.unreadable path fault)

end DatabasesConfig

end SqlSelect
