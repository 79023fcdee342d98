import SqlSelect.Query.SelectAlias

/-!
# `SqlSelect.Query.AliasWalk`: giving aliases in place

`aliasFrom` looks for a free alias among as many candidates as there are names. In place, a search
tries one candidate after the other until one is free, however many that are, and counts them with a
number that has a largest value. An `AliasWalk` is a place in such a walk through a select list, and
`AliasWalk.step` goes on from there: it looks at one entry, or tries one candidate. A step may find
that the counter cannot go on.
-/

set_option autoImplicit false

namespace SqlSelect.Query

open Column

/-- Where the walk through a select list is. -/
structure AliasWalk where
  /-- The entries that are finished. -/
  written : List String
  /-- The expression of the entry that an alias is searched for, if one is. -/
  search : Option String
  /-- The entries to come. -/
  rest : List String
  /-- The names that are taken. -/
  names : List String
  /-- The number of the next candidate. -/
  counter : Nat
  /-- The candidates that have been tried. -/
  tried : List String
  deriving DecidableEq, Repr

namespace AliasWalk

/-- What a step comes to. -/
inductive Outcome where
  | next (w : AliasWalk)
  | finished
  | overflow
  deriving DecidableEq, Repr

/-- The walk in front of the first entry. -/
def start (entries : List String) : AliasWalk where
  written := []
  search := none
  rest := entries
  names := entries.filterMap existingAlias?
  counter := 0
  tried := []

/-- Tries the next candidate. The counter goes on first, if it is below its largest number. -/
def tryAlias (largest : Nat) (w : AliasWalk) (expression : String) : Outcome :=
  let candidate := generatedAlias w.counter
  if largest ≤ w.counter then .overflow
  else
    let w := { w with counter := w.counter + 1, tried := w.tried ++ [candidate] }
    if candidate ∈ w.names then .next w
    else
      .next { w with
        written := w.written ++ [expression ++ " " ++ candidate]
        search := none
        names := candidate :: w.names }

/-- Looks at the next entry. -/
def visit (w : AliasWalk) (entry : String) (rest : List String) : AliasWalk :=
  let (expression, given) := splitAlias entry
  let name := columnName expression
  if isFunction entry || given.isSome || name == "*" then
    { w with written := w.written ++ [entry], rest := rest }
  else if name ∈ w.names then { w with search := some expression, rest := rest }
  else { w with written := w.written ++ [entry], rest := rest, names := name :: w.names }

/-- One step, with a counter that holds no number above `largest`. -/
def step (largest : Nat) (w : AliasWalk) : Outcome :=
  match w.search, w.rest with
  | some expression, _ => w.tryAlias largest expression
  | none, entry :: rest => .next (w.visit entry rest)
  | none, [] => .finished

end AliasWalk

end SqlSelect.Query
