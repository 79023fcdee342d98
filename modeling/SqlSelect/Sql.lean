import SqlSelect.Value.Literal

/-!
# `SqlSelect.Sql`: SQL text with values in it

A condition is first written as fragments: pieces of text with the values between them that can be
bound to parameters. The two ways to hand a statement to a database differ only in what stands in
the place of a value: `Sql.inline` puts its literal there, `Sql.withPlaceholders` a numbered
placeholder, and `Sql.params` lists the values in the order of the numbers.

How an expression is compared without regard to case is up to the dialect, and a value has no text
before the way is chosen. So a value says whether its case is ignored, and the dialect is asked when
its text is there.
-/

set_option autoImplicit false

namespace SqlSelect

/-- A piece of a condition. -/
inductive Fragment where
  | text (s : String)
  /-- A value, with its letter case ignored or not. -/
  | bound (v : SqlValue) (fold : Bool)

/-- SQL text with values in it. -/
abbrev Sql := List Fragment

namespace Sql

/-- SQL text without values. -/
def ofText (s : String) : Sql :=
  [.text s]

/-- A value in the SQL text of a dialect, with its letter case ignored or not. A value that cannot
be bound is written out. -/
def ofValue (d : Dialect) (fold : Bool) (v : SqlValue) : Sql :=
  if v.isBindable then [.bound v fold] else [.text (d.foldedText fold (v.literal d))]

/-- The pieces of a list with a text between them. -/
def joinWith (separator : String) : List Sql → Sql
  | [] => []
  | [s] => s
  | s :: rest => s ++ ofText separator ++ joinWith separator rest

/-- SQL text between parentheses. -/
def parenthesized (s : Sql) : Sql :=
  ofText "(" ++ s ++ ofText ")"

/-- The text with the literal of every value in its place. -/
def inline (d : Dialect) : Sql → String
  | [] => ""
  | .text s :: rest => s ++ inline d rest
  | .bound v fold :: rest => d.foldedText fold (v.literal d) ++ inline d rest

/-- The text with a placeholder for every value, numbered from `used + 1`. -/
def withPlaceholders (d : Dialect) (used : Nat) : Sql → String
  | [] => ""
  | .text s :: rest => s ++ withPlaceholders d used rest
  | .bound _ fold :: rest =>
    d.foldedText fold (d.placeholder (used + 1)) ++ withPlaceholders d (used + 1) rest

/-- The values in the order of their places. -/
def params : Sql → List SqlValue
  | [] => []
  | .text _ :: rest => params rest
  | .bound v _ :: rest => v :: params rest

end Sql

end SqlSelect
