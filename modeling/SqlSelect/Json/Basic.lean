import SqlSelect.Number.Binary

/-!
# `SqlSelect.Json.Basic`: JSON values

A JSON value keeps integers apart from other numbers. The members of an object stand in the order
of their keys, each key once; `Json.insert` keeps that order and replaces the value of a key that
is there already.
-/

set_option autoImplicit false

namespace SqlSelect

open Number

/-- A JSON value. -/
inductive Json where
  | null
  | bool (b : Bool)
  | integer (n : Int)
  | real (x : Binary .double)
  | text (s : String)
  | array (items : List Json)
  | object (members : List (String × Json))

namespace Json

/-- Puts a member at the place of its key; keys are ordered by their code points. -/
def insert (key : String) (value : Json) : List (String × Json) → List (String × Json)
  | [] => [(key, value)]
  | (k, v) :: rest =>
    if key = k then (key, value) :: rest
    else if key < k then (key, value) :: (k, v) :: rest
    else (k, v) :: insert key value rest

/-- The object of a list of members; of a repeated key the last value counts. -/
def ofMembers (members : List (String × Json)) : Json :=
  object (members.foldl (fun sorted (key, value) => insert key value sorted) [])

end Json

end SqlSelect
