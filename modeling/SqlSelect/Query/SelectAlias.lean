import SqlSelect.Column.Alias

/-!
# `SqlSelect.Query.SelectAlias`: one name for every result column

A subquery must not have two columns of one name. `aliasDuplicates` keeps the first column of a
name and gives the later ones the aliases `a0`, `a1`, … from left to right, passing over those that
the select list uses itself. Function calls and `*` are left as they are.
-/

set_option autoImplicit false

namespace SqlSelect.Query

open Column

/-- The alias that an entry of a select list has already. -/
def existingAlias? (entry : String) : Option String :=
  if isFunction entry then functionAlias entry else (splitAlias entry).2

/-- The generated alias with the given number. -/
def generatedAlias (n : Nat) : String :=
  "a" ++ toString n

/-- The first of `fuel` numbers from `n` on whose alias is not taken; among more numbers than taken
names there always is one. -/
def freeNumber (taken : List String) : Nat → Nat → Nat
  | 0, n => n
  | fuel + 1, n => if taken.contains (generatedAlias n) then freeNumber taken fuel (n + 1) else n

/-- The entries from left to right, with the names taken so far and the next number to try. -/
def aliasFrom (taken : List String) (next : Nat) : List String → List String
  | [] => []
  | entry :: rest =>
    let (expression, given) := splitAlias entry
    let name := columnName expression
    if isFunction entry || given.isSome || name == "*" then entry :: aliasFrom taken next rest
    else if taken.contains name then
      let n := freeNumber taken taken.length next
      (expression ++ " " ++ generatedAlias n) ::
        aliasFrom (generatedAlias n :: taken) (n + 1) rest
    else entry :: aliasFrom (name :: taken) next rest

/-- The select list with an alias for every column whose name is taken. -/
def aliasDuplicates (entries : List String) : List String :=
  aliasFrom (entries.filterMap existingAlias?) 0 entries

end SqlSelect.Query
