import SqlSelect.Json.Syntax

/-!
# `SqlSelect.Value.Uuid`: universally unique identifiers

A UUID is 32 hexadecimal digits. `Uuid.read?` reads its written forms: the digits alone, groups of
8, 4, 4, 4 and 12 of them with hyphens between, and such groups between braces or behind
`urn:uuid:`. `Uuid.text` writes the groups in lower case.
-/

set_option autoImplicit false

namespace SqlSelect

/-- The 32 digits of a UUID, each below 16. -/
structure Uuid where
  digits : List (Fin 16)
  length_eq : digits.length = 32
  deriving DecidableEq, Repr

namespace Uuid

/-- A hexadecimal digit as a number below 16. -/
def hexFin? (c : Char) : Option (Fin 16) :=
  (Json.hexValue? c).bind fun n => if h : n < 16 then some ⟨n, h⟩ else none

/-- The UUID of 32 hexadecimal digits. -/
def ofDigits? (cs : List Char) : Option Uuid :=
  (cs.mapM hexFin?).bind fun ds => if h : ds.length = 32 then some ⟨ds, h⟩ else none

/-- The UUID of groups of digits with hyphens between them. -/
def ofGroups? (cs : List Char) : Option Uuid :=
  let hyphens : List Nat := [8, 13, 18, 23]
  if cs.length = 36 ∧ hyphens.all (fun i => cs[i]? == some '-') then
    ofDigits? (cs.take 8 ++ (cs.drop 9).take 4 ++ (cs.drop 14).take 4 ++ (cs.drop 19).take 4 ++
      cs.drop 24)
  else none

/-- The text before the digits of a UUID written as a name. -/
def urnStart : List Char := "urn:uuid:".toList

/-- Reads a UUID in any of its written forms. -/
def read? (s : String) : Option Uuid :=
  let cs := s.toList
  if cs.length = 32 then ofDigits? cs
  else if cs.length = 36 then ofGroups? cs
  else if cs.length = 38 ∧ cs.head? = some '\x7b' ∧ cs.getLast? = some '\x7d' then
    ofGroups? ((cs.drop 1).take 36)
  else if cs.length = 45 ∧ urnStart.isPrefixOf cs then ofGroups? (cs.drop 9)
  else none

/-- The UUID in groups with hyphens between them. -/
def text (u : Uuid) : String :=
  let cs := u.digits.map fun n => Nat.digitChar n.val
  String.ofList (cs.take 8 ++ '-' :: (cs.drop 8).take 4 ++ '-' :: (cs.drop 12).take 4 ++
    '-' :: (cs.drop 16).take 4 ++ '-' :: cs.drop 20)

end Uuid

end SqlSelect
