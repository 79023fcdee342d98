import SqlSelect.Dialect.Backend
import SqlSelect.NamedList
import SqlSelect.Text.Quoted

/-!
# `SqlSelect.Registry.Dialects`: dialects by key

A registry of dialects starts with the built-in ones under their keys. A dialect is registered
under its key in lower case. A key is looked up in lower case and without the blanks around it, and
one that is not registered may still be another name of a built-in product.
-/

set_option autoImplicit false

namespace SqlSelect

open Text

/-- Dialects under their keys. -/
structure DialectRegistry where
  dialects : NamedList Dialect

namespace DialectRegistry

/-- The built-in dialects. -/
def builtin : DialectRegistry where
  dialects := .ofEntries (Backend.all.map fun b => (b.key, b.dialect))

instance : Inhabited DialectRegistry := ⟨builtin⟩

/-- Registers a dialect under a key, in the place of the one that was there. -/
def register (r : DialectRegistry) (key : String) (d : Dialect) : DialectRegistry where
  dialects := r.dialects.put (lowerAscii key) d

/-- The dialect that a key stands for. -/
def lookup? (r : DialectRegistry) (key : String) : Option Dialect :=
  let normalized := Backend.normalName key
  match r.dialects.get? normalized with
  | some d => some d
  | none => (Backend.ofName? normalized).bind fun b => r.dialects.get? b.key

/-- The dialect that a key stands for. -/
def lookup (r : DialectRegistry) (key : String) : Except QueryError Dialect :=
  match r.lookup? key with
  | some d => .ok d
  | none => .error (.unknownDialect key)

/-- Whether a key stands for a dialect. -/
def contains (r : DialectRegistry) (key : String) : Bool :=
  (r.lookup? key).isSome

/-- Puts a text at its place in the order of texts. -/
def insertText (s : String) : List String → List String
  | [] => [s]
  | t :: rest => if s < t then s :: t :: rest else t :: insertText s rest

/-- The keys in order. -/
def sortedKeys (r : DialectRegistry) : List String :=
  r.dialects.names.foldr insertText []

/-- The registry as it is shown to a developer. -/
def shown (r : DialectRegistry) : String :=
  "DialectRegistry \x7b dialects: " ++ showQuotedList r.sortedKeys ++ " \x7d"

end DialectRegistry

end SqlSelect
