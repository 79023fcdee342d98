import SqlSelect.Value.Basic
import SqlSelect.Value.Uuid

/-!
# `SqlSelect.Value.Conversion`: values of other types as SQL values

`ToSqlValue` says which SQL value a value of another type is. An absent optional value is NULL,
and `SqlValue.ofList` makes a list for the right side of `IN`.
-/

set_option autoImplicit false

namespace SqlSelect

open Number

/-- A type whose values are SQL values. -/
class ToSqlValue (α : Type) where
  toSqlValue : α → SqlValue

export ToSqlValue (toSqlValue)

instance : ToSqlValue SqlValue := ⟨id⟩
instance : ToSqlValue Bool := ⟨.bool⟩
instance : ToSqlValue Int16 := ⟨.smallInt⟩
instance : ToSqlValue Int32 := ⟨.int⟩
instance : ToSqlValue Int64 := ⟨.bigInt⟩
instance : ToSqlValue UInt32 := ⟨fun n => .bigInt (Int64.ofNat n.toNat)⟩
instance : ToSqlValue (Binary .single) := ⟨.float⟩
instance : ToSqlValue (Binary .double) := ⟨.double⟩
instance : ToSqlValue FixedPoint := ⟨.decimal⟩
instance : ToSqlValue String := ⟨.string⟩
instance : ToSqlValue (List UInt8) := ⟨.bytes⟩
instance : ToSqlValue Date := ⟨.date⟩
instance : ToSqlValue Time := ⟨.time⟩
instance : ToSqlValue DateTime := ⟨.dateTime⟩
instance : ToSqlValue Uuid := ⟨fun u => .uuid u.text⟩
instance : ToSqlValue Json := ⟨.json⟩

instance {α : Type} [ToSqlValue α] : ToSqlValue (Option α) :=
  ⟨fun
    | some a => toSqlValue a
    | none => .null⟩

/-- The list of the values of a list. -/
def SqlValue.ofList {α : Type} [ToSqlValue α] (values : List α) : SqlValue :=
  .array (values.map toSqlValue)

end SqlSelect
