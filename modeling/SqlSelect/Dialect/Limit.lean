import SqlSelect.Text.Segment

/-!
# `SqlSelect.Dialect.Limit`: how a dialect limits rows

A dialect either has a clause at the end of a statement, given by texts with the markers
`{limit}` and `{offset}`, or a word behind `SELECT`, or nothing but the numbers of the rows of a
subquery, or no means at all.
-/

set_option autoImplicit false

namespace SqlSelect

open Text

/-- The marker that stands for the largest number of rows. -/
def limitMarker : List Char := "\x7blimit\x7d".toList

/-- The marker that stands for the number of rows to skip. -/
def offsetMarker : List Char := "\x7boffset\x7d".toList

/-- The clause for each combination of a limit and an offset; `offset` is `none` where rows cannot
be skipped without a limit. -/
structure LimitTemplate where
  limit : String
  limitOffset : String
  offset : Option String
  deriving DecidableEq, Repr

namespace LimitTemplate

/-- A number in the place of every occurrence of a marker, if there is a number. -/
def fillMarker (marker : List Char) (value : Option Int) (text : List Char) : List Char :=
  match value with
  | some n => replaceAll marker (toString n).toList text
  | none => text

/-- The text with the numbers in the places of the markers. -/
def fill (template : String) (limit offset : Option Int) : String :=
  String.ofList
    (fillMarker offsetMarker offset (fillMarker limitMarker limit template.toList))

/-- The clause for a limit and an offset, empty for neither; `none` if it cannot be expressed. -/
def render (t : LimitTemplate) : Option Int → Option Int → Option String
  | none, none => some ""
  | some limit, none => some (fill t.limit (some limit) none)
  | some limit, some offset => some (fill t.limitOffset (some limit) (some offset))
  | none, some offset => t.offset.map fun template => fill template none (some offset)

end LimitTemplate

/-- The means of a dialect to limit rows. -/
inductive Pagination where
  /-- A clause at the end of the statement. -/
  | native (template : LimitTemplate)
  /-- `TOP n` behind `SELECT`, which cannot skip rows. -/
  | top
  /-- A subquery that numbers the rows, with a condition on the number. -/
  | rowNumber
  /-- No means. -/
  | unsupported
  deriving DecidableEq, Repr

end SqlSelect
