import SqlSelect.Dialect.Basic
import SqlSelect.Json.Printer
import SqlSelect.Value.Basic

/-!
# `SqlSelect.Value.Literal`: values as text

`SqlValue.literal` writes a value into a statement of a dialect. Texts and JSON stand between
single quotes, escaped; a UUID stands between single quotes as it is. `SqlValue.display` shows a
value to a reader and is the same for all dialects.
-/

set_option autoImplicit false

namespace SqlSelect

open Number Text

/-- A byte as two hexadecimal digits. -/
def hexByte (b : UInt8) : String :=
  padStart 2 '0' (String.ofList ((hexDigits b.toNat).map Char.toUpper))

namespace SqlValue

mutual

/-- The value as SQL text of a dialect. -/
def literal (d : Dialect) : SqlValue → String
  | null => "NULL"
  | bool b => d.booleanText b
  | smallInt n => toString n.toInt
  | int n => toString n.toInt
  | bigInt n => toString n.toInt
  | float x => if x.isFinite then x.plainText else "NULL"
  | double x => if x.isFinite then x.plainText else "NULL"
  | decimal x => x.text
  | string s => singleQuoted (d.escapeText s)
  | uuid s => singleQuoted s
  | json j => singleQuoted (d.escapeText j.print)
  | bytes bs => "X" ++ singleQuoted (String.join (bs.map hexByte))
  | date x => d.dateLiteral x
  | time x => d.timeLiteral x
  | dateTime x => d.dateTimeLiteral x
  | array values => String.intercalate "," (literals d values)
  | verbatim sql => if sql = currentTimestampText then d.currentTimestamp else sql

/-- The values of a list as SQL text of a dialect. -/
def literals (d : Dialect) : List SqlValue → List String
  | [] => []
  | v :: values => literal d v :: literals d values

end

mutual

/-- The value as it is shown to a reader. -/
def display : SqlValue → String
  | null => "NULL"
  | bool b => if b then "true" else "false"
  | smallInt n => toString n.toInt
  | int n => toString n.toInt
  | bigInt n => toString n.toInt
  | float x => x.plainText
  | double x => x.plainText
  | decimal x => x.text
  | string s => s
  | uuid s => s
  | verbatim s => s
  | bytes bs => "<binary:" ++ toString bs.length ++ " bytes>"
  | date x => x.text
  | time x => x.text
  | dateTime x => x.text
  | json j => j.print
  | array values => "[" ++ String.intercalate ", " (displays values) ++ "]"

/-- The values of a list as they are shown to a reader. -/
def displays : List SqlValue → List String
  | [] => []
  | v :: values => display v :: displays values

end

end SqlValue

end SqlSelect
