import SqlSelect.Calendar.Basic
import SqlSelect.Json.Basic
import SqlSelect.Number.FixedPoint

/-!
# `SqlSelect.Value.Basic`: SQL values

A value stands on the right side of a comparison, alone or in a list, and is either bound to a
parameter or written into the statement. A verbatim value is SQL text that is written as it is.
-/

set_option autoImplicit false

namespace SqlSelect

open Number

/-- A value. -/
inductive SqlValue where
  | null
  | bool (b : Bool)
  | smallInt (n : Int16)
  | int (n : Int32)
  | bigInt (n : Int64)
  | float (x : Binary .single)
  | double (x : Binary .double)
  | decimal (x : FixedPoint)
  | string (s : String)
  | bytes (bs : List UInt8)
  | date (d : Date)
  | time (t : Time)
  | dateTime (dt : DateTime)
  | uuid (s : String)
  | json (j : Json)
  | array (values : List SqlValue)
  | verbatim (sql : String)

namespace SqlValue

instance : Inhabited SqlValue := ⟨null⟩

/-- The marker for today's date. -/
def currentDate : SqlValue := verbatim "CURRENT_DATE"

/-- The marker for the time of day. -/
def currentTime : SqlValue := verbatim "CURRENT_TIME"

/-- The SQL text that stands for the present moment, which every dialect writes in its way. -/
def currentTimestampText : String := "CURRENT_TIMESTAMP"

/-- The marker for the present moment. -/
def currentTimestamp : SqlValue := verbatim currentTimestampText

/-- Whether the value is NULL. -/
def isNull : SqlValue → Bool
  | null => true
  | _ => false

/-- Whether the value is a floating-point number that is not finite, which has no literal. -/
def isNonFinite : SqlValue → Bool
  | float x => !x.isFinite
  | double x => !x.isFinite
  | _ => false

/-- Whether the value is a list. -/
def isArray : SqlValue → Bool
  | array _ => true
  | _ => false

/-- Whether the value is SQL text. -/
def isVerbatim : SqlValue → Bool
  | verbatim _ => true
  | _ => false

/-- Whether the value is a text, to which letter case and patterns apply. -/
def isText : SqlValue → Bool
  | string _ => true
  | _ => false

/-- Whether the value can be bound to a parameter. -/
def isBindable : SqlValue → Bool
  | null | verbatim _ | array _ => false
  | _ => true

/-- The text of a text or of SQL text. -/
def asText? : SqlValue → Option String
  | string s => some s
  | verbatim s => some s
  | _ => none

/-- The value as an integer of 64 bits; a text is read. -/
def asInt64? : SqlValue → Option Int
  | smallInt n => some n.toInt
  | int n => some n.toInt
  | bigInt n => some n.toInt
  | string s => readBounded? int64Bounds.1 int64Bounds.2 s.toList
  | _ => none

end SqlValue

end SqlSelect
