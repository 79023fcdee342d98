import SqlSelect.Text.Blank
import SqlSelect.Text.Segment

/-!
# `SqlSelect.Column.Alias`: the names of result columns

An entry of a select list may carry an alias behind its expression, with or without `AS`. Entries
with parentheses are function calls: `splitAlias` leaves them whole, and `functionAlias` reads
what stands behind their last parenthesis.
-/

set_option autoImplicit false

namespace SqlSelect.Column

open Text

/-- What stands before a final `AS` behind a blank, in any letter case. -/
def beforeFinalAs? (cs : List Char) : Option (List Char) :=
  match cs.reverse with
  | s :: a :: ' ' :: rest =>
    if s.toLower = 's' ∧ a.toLower = 'a' then some rest.reverse else none
  | _ => none

/-- The expression of an entry and its alias. -/
def splitAlias (entry : String) : String × Option String :=
  let cs := trim entry.toList
  if '(' ∈ cs ∨ ')' ∈ cs then (String.ofList cs, none)
  else
    match splitAtLast? ' ' cs with
    | some (before, name) =>
      let expression := trimEnd before
      let expression := ((beforeFinalAs? expression).map trimEnd).getD expression
      (String.ofList expression, some (String.ofList name))
    | none => (String.ofList cs, none)

/-- The name behind the last dot of an expression. -/
def columnName (expression : String) : String :=
  match splitAtLast? '.' expression.toList with
  | some (_, name) => String.ofList name
  | none => expression

/-- Whether an entry calls a function. -/
def isFunction (entry : String) : Bool :=
  '(' ∈ entry.toList

/-- The text without an `AS` and the blanks behind it in front, in any letter case. -/
def dropLeadingAs : List Char → List Char
  | a :: s :: ' ' :: rest =>
    if a.toLower = 'a' ∧ s.toLower = 's' then trimStart rest else a :: s :: ' ' :: rest
  | cs => cs

/-- The alias behind the last parenthesis of a function call, as in `COUNT(t.c) AS n` or
`MAX(t.c) m`; a text of several words is none. -/
def functionAlias (entry : String) : Option String :=
  (splitAtLast? ')' entry.toList).bind fun (_, tail) =>
    let name := dropLeadingAs (trim tail)
    if name.isEmpty || name.any isBlank then none else some (String.ofList name)

end SqlSelect.Column
