import SqlSelect.Calendar.Basic
import SqlSelect.Dialect.Limit

/-!
# `SqlSelect.Dialect.Basic`: SQL dialects

A dialect is a record of the texts in which database products differ. Most have a common form,
which is the default of the field.

* `quotedName` is the common form of a quoted name: it quotes a dotted name segment by segment and
  leaves `*` alone.
* `foldCase` is the common form of an expression whose letter case is ignored: `UPPER(…)`.
-/

set_option autoImplicit false

namespace SqlSelect

open Text

/-- A text between single quotes. -/
def singleQuoted (s : String) : String :=
  "'" ++ s ++ "'"

/-- A text with every single quote written twice. -/
def doubleQuotes (s : String) : String :=
  String.ofList (doubleChar '\'' s.toList)

/-- A date and a time of day with a blank between them, without the fraction of the second. -/
def dateAndTime (dt : DateTime) : String :=
  dt.date.text ++ " " ++ dt.time.layout ":"

/-- One segment of a name between quotes; a closing quote in it is written twice. -/
def quotedSegment (opening closing : Char) (segment : List Char) : List Char :=
  if segment = ['*'] then segment
  else opening :: doubleChar closing segment ++ [closing]

/-- A dotted name with each of its segments between quotes. -/
def quotedName (opening closing : Char) (name : String) : String :=
  String.ofList (['.'].intercalate
    ((segments '.' name.toList).map (quotedSegment opening closing)))

/-- An expression between the parentheses of `UPPER`. -/
def foldCase (expression : String) : String :=
  "UPPER(" ++ expression ++ ")"

/-- The texts in which database products differ. -/
structure Dialect where
  /-- The name of the product. -/
  name : String
  /-- The character in front of a quoted identifier. -/
  openQuote : Char
  /-- The character behind a quoted identifier. -/
  closeQuote : Char
  /-- The placeholder of the parameter with the given number, counted from 1. -/
  placeholder : Nat → String
  /-- The means to limit rows. -/
  pagination : Pagination
  /-- The literal of a truth value. -/
  booleanText : Bool → String
  /-- The number of characters an identifier may have. -/
  maxIdentifierLength : Nat
  /-- The expression for the present moment. -/
  currentTimestamp : String := "CURRENT_TIMESTAMP"
  /-- A table or column name between quotes. -/
  quoteIdentifier : String → String := quotedName openQuote closeQuote
  /-- A text as it is written between single quotes. -/
  escapeText : String → String := doubleQuotes
  /-- The literal of a date. -/
  dateLiteral : Date → String := fun d => singleQuoted d.text
  /-- The literal of a time of day. -/
  timeLiteral : Time → String := fun t => singleQuoted (t.layout ":")
  /-- The literal of a date with a time of day. -/
  dateTimeLiteral : DateTime → String := fun dt => singleQuoted (dateAndTime dt)
  /-- An expression as it is compared when case is ignored. -/
  ignoreCase : String → String := foldCase
  /-- The operators that match a pattern, or fail to, without regard to case, if there are any. -/
  caseInsensitiveLike : Bool → Option String := fun _ => none

namespace Dialect

/-- One segment of a name between the quotes of a dialect. -/
def quoteSegment (d : Dialect) (segment : List Char) : List Char :=
  quotedSegment d.openQuote d.closeQuote segment

/-- An expression with its letter case ignored or not. -/
def foldedText (d : Dialect) (fold : Bool) (expression : String) : String :=
  if fold then d.ignoreCase expression else expression

end Dialect

end SqlSelect
