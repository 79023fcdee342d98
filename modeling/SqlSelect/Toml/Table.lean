import SqlSelect.Number.Binary

/-!
# `SqlSelect.Toml.Table`: TOML tables and how they are put together

A TOML document is a list of statements: a header opens a table, and the key with a value behind it
fills the table. `Table.ofStatements?` puts them together and refuses what TOML refuses: to give a
key twice, to open a table twice, and to write into a table with dotted keys where a header has
opened it, or the other way round.

A table remembers how it came to be. A header opens it, or a longer header passes through it, or
dotted keys make it; an inline table is a value and never grows.
-/

set_option autoImplicit false

namespace SqlSelect.Toml

open Number

/-- A TOML value. Dates and times are kept as they are written. A number that cannot be represented
has no value, which does no harm where nobody asks for it. -/
inductive Value where
  | string (s : String)
  | integer (n : Option Int)
  | float (x : Option (Binary .double))
  | boolean (b : Bool)
  | dateTime (written : String)
  | array (items : List Value)
  | table (entries : List (String × Value))

mutual

/-- Whether all numbers of a value can be represented. -/
def Value.isRepresentable : Value → Bool
  | .integer n => n.isSome
  | .float x => x.isSome
  | .array items => areRepresentable items
  | .table entries => haveRepresentable entries
  | _ => true

/-- Whether all numbers of several values can be represented. -/
def areRepresentable : List Value → Bool
  | [] => true
  | v :: items => v.isRepresentable && areRepresentable items

/-- Whether all numbers of the values of a table can be represented. -/
def haveRepresentable : List (String × Value) → Bool
  | [] => true
  | (_, v) :: entries => v.isRepresentable && haveRepresentable entries

end

/-- How a table came to be. -/
inductive Origin where
  /-- A header opened it. -/
  | opened
  /-- A longer header passed through it. -/
  | passed
  /-- A dotted key made it. -/
  | dotted
  deriving DecidableEq, Repr

/-- What stands under a key of a table that may still grow. -/
inductive Node where
  | value (v : Value)
  | table (origin : Origin) (entries : List (String × Node))
  /-- The tables of one header between double brackets, the last one first. -/
  | tables (last : List (String × Node)) (before : List (List (String × Node)))

/-- The entries of a table that may still grow. -/
abbrev Entries := List (String × Node)

/-- The entries with another node under a key that is there. -/
def replaceNode (key : String) (node : Node) (entries : Entries) : Entries :=
  entries.map fun entry => if entry.1 = key then (key, node) else entry

/-- The entries with a node behind them under a new key. -/
def addNode (key : String) (node : Node) (entries : Entries) : Entries :=
  entries ++ [(key, node)]

/-- Puts a value under a dotted key: `path` leads to the table, `own` tells whether the entries are
those of a table that the key may write into. -/
def putValue? (own : Bool) (path : List String) (key : String) (v : Value) (entries : Entries) :
    Option Entries :=
  match path with
  | [] =>
    if own && (entries.lookup key).isNone then some (addNode key (.value v) entries) else none
  | step :: path =>
    match entries.lookup step with
    | none =>
      (putValue? true path key v []).map fun inner => addNode step (.table .dotted inner) entries
    | some (.table .opened _) => none
    | some (.table origin inner) =>
      (putValue? (origin == .dotted) path key v inner).map fun inner =>
        replaceNode step (.table origin inner) entries
    | some (.tables last before) =>
      (putValue? false path key v last).map fun last =>
        replaceNode step (.tables last before) entries
    | some (.value _) => none

/-- Lets a function work on the entries of the table that `path` leads to. Tables that are missing
on the way are passed through, and of several tables under one key the last one counts. -/
def atTable? (f : Entries → Option Entries) (path : List String) (entries : Entries) :
    Option Entries :=
  match path with
  | [] => f entries
  | step :: path =>
    match entries.lookup step with
    | none => (atTable? f path []).map fun inner => addNode step (.table .passed inner) entries
    | some (.table origin inner) =>
      (atTable? f path inner).map fun inner => replaceNode step (.table origin inner) entries
    | some (.tables last before) =>
      (atTable? f path last).map fun last => replaceNode step (.tables last before) entries
    | some (.value _) => none

/-- Opens a table under a key, which a header may have passed through but not opened. -/
def openTable? (key : String) (entries : Entries) : Option Entries :=
  match entries.lookup key with
  | none => some (addNode key (.table .opened []) entries)
  | some (.table .passed inner) => some (replaceNode key (.table .opened inner) entries)
  | some _ => none

/-- Opens one more of several tables under a key. -/
def openTables? (key : String) (entries : Entries) : Option Entries :=
  match entries.lookup key with
  | none => some (addNode key (.tables [] []) entries)
  | some (.tables last before) => some (replaceNode key (.tables [] (last :: before)) entries)
  | some _ => none

/-- A key with the dots resolved: the steps to the table and the name in it. -/
structure Key where
  path : List String
  name : String
  deriving DecidableEq, Repr

/-- All steps of a key. -/
def Key.steps (k : Key) : List String :=
  k.path ++ [k.name]

/-- A statement of a document. -/
inductive Statement where
  | header (key : Key)
  | arrayHeader (key : Key)
  | entry (key : Key) (v : Value)

mutual

/-- The value of a node. -/
def Node.finish : Node → Value
  | .value v => v
  | .table _ entries => .table (finishEntries entries)
  | .tables last before => .array ((finishTables before).reverse ++ [.table (finishEntries last)])

/-- The values of the entries of a table. -/
def finishEntries : List (String × Node) → List (String × Value)
  | [] => []
  | (key, node) :: entries => (key, node.finish) :: finishEntries entries

/-- The values of several tables. -/
def finishTables : List (List (String × Node)) → List Value
  | [] => []
  | entries :: rest => .table (finishEntries entries) :: finishTables rest

end

/-- A document under construction: its entries, and the steps to the table that was opened last. -/
structure Draft where
  current : List String
  entries : Entries

/-- Carries out one statement. -/
def Draft.run? (draft : Draft) : Statement → Option Draft
  | .header key =>
    (atTable? (openTable? key.name) key.path draft.entries).map fun entries =>
      ⟨key.steps, entries⟩
  | .arrayHeader key =>
    (atTable? (openTables? key.name) key.path draft.entries).map fun entries =>
      ⟨key.steps, entries⟩
  | .entry key v =>
    (atTable? (putValue? true key.path key.name v) draft.current draft.entries).map fun entries =>
      { draft with entries }

/-- The entries of the document that the statements make. -/
def ofStatements? (statements : List Statement) : Option (List (String × Value)) :=
  (statements.foldlM Draft.run? ⟨[], []⟩).map fun draft => finishEntries draft.entries

/-- Puts one key of an inline table with its value. -/
def putPair? (entries : Entries) (pair : Key × Value) : Option Entries :=
  putValue? true pair.1.path pair.1.name pair.2 entries

/-- The inline table of keys with values. -/
def inlineTable? (pairs : List (Key × Value)) : Option Value :=
  (pairs.foldlM putPair? []).map fun entries => .table (finishEntries entries)

end SqlSelect.Toml
