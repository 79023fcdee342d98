import SqlSelect.Calendar.Reader
import SqlSelect.Json.Printer
import SqlSelect.Json.Reader
import SqlSelect.Value.Basic

/-!
# `SqlSelect.Value.Exchange`: values as JSON text

A value is exchanged as an object with one member: its key is the name of the kind of value, and
its value the content. NULL is the name alone. Fixed-point numbers, dates and times are strings,
bytes an array of numbers. `SqlValue.exchangeText` writes this form and `SqlValue.readExchange?`
reads it; integers have to fit their kind, and a fixed-point number may also be given as a JSON
number or in scientific notation.
-/

set_option autoImplicit false

namespace SqlSelect

open Number Json

namespace SqlValue

/-! ### Writing -/

/-- An object with one member. -/
def tagged (tag content : String) : String :=
  "\x7b" ++ textOfString tag ++ ":" ++ content ++ "\x7d"

mutual

/-- The value as JSON text. -/
def exchangeText : SqlValue → String
  | null => textOfString "Null"
  | bool b => tagged "Bool" (if b then "true" else "false")
  | smallInt n => tagged "SmallInt" (toString n.toInt)
  | int n => tagged "Int" (toString n.toInt)
  | bigInt n => tagged "BigInt" (toString n.toInt)
  | float x => tagged "Float" (textOfBinary singleRange x)
  | double x => tagged "Double" (textOfBinary doubleRange x)
  | decimal x => tagged "Decimal" (textOfString x.text)
  | string s => tagged "String" (textOfString s)
  | bytes bs =>
    tagged "Bytes" ("[" ++ String.intercalate "," (bs.map fun b => toString b.toNat) ++ "]")
  | date d => tagged "Date" (textOfString d.text)
  | time t => tagged "Time" (textOfString t.text)
  | dateTime dt => tagged "DateTime" (textOfString (dt.textWith "T"))
  | uuid s => tagged "Uuid" (textOfString s)
  | json j => tagged "Json" j.print
  | array values => tagged "Array" ("[" ++ String.intercalate "," (exchangeTexts values) ++ "]")
  | verbatim sql => tagged "Verbatim" (textOfString sql)

/-- The values of a list as JSON text. -/
def exchangeTexts : List SqlValue → List String
  | [] => []
  | v :: values => exchangeText v :: exchangeTexts values

end

/-! ### Reading -/

/-- The integer of a document, if it is one between the bounds. -/
def readInt? (bounds : Int × Int) : Document → Option Int
  | .number n =>
    match n.value? with
    | some (.integer k) => if bounds.1 ≤ k ∧ k ≤ bounds.2 then some k else none
    | _ => none
  | _ => none

/-- The floating-point number of a document, which may write it as an integer. -/
def readBinary? {f : BinaryFormat} : Document → Option (Binary f)
  | .number n =>
    match n.value? with
    | some (.integer k) => some (Binary.ofInt k)
    | some (.real x) => some x.convert
    | _ => none
  | _ => none

/-- The text of a document that is a string. -/
def readString? : Document → Option String
  | .text units => decodeText? units
  | _ => none

/-- The fixed-point number of a document that is a string or a number. -/
def readDecimal? : Document → Option FixedPoint
  | .text units => (decodeUnits? units).bind FixedPoint.read?
  | .number n =>
    match n.value? with
    | some (.integer k) => FixedPoint.ofInt? k
    | some (.real x) => FixedPoint.read? x.plainText.toList
    | _ => none
  | _ => none

/-- The bytes of a document that is an array of them. -/
def readBytes? : Document → Option (List UInt8)
  | .array items => items.mapM fun item => (readInt? (0, 255) item).map fun k => UInt8.ofNat k.toNat
  | _ => none

/-- The value of a kind that is no list, from the document of its content whose brackets are
nested at most `depth` deep. -/
def ofContent? (depth : Nat) (tag : String) (content : Document) : Option SqlValue :=
  match tag with
  | "Null" => match content with
    | .null => some null
    | _ => none
  | "Bool" => match content with
    | .bool b => some (bool b)
    | _ => none
  | "SmallInt" => (readInt? int16Bounds content).map fun k => smallInt (Int16.ofInt k)
  | "Int" => (readInt? int32Bounds content).map fun k => int (Int32.ofInt k)
  | "BigInt" => (readInt? int64Bounds content).map fun k => bigInt (Int64.ofInt k)
  | "Float" => (readBinary? content).map float
  | "Double" => (readBinary? content).map double
  | "Decimal" => (readDecimal? content).map decimal
  | "String" => (readString? content).map string
  | "Bytes" => if depth = 0 then none else (readBytes? content).map bytes
  | "Date" => (readString? content).bind fun s => (Date.read? s.toList).map date
  | "Time" => (readString? content).bind fun s => (Time.read? s.toList).map time
  | "DateTime" => (readString? content).bind fun s => (DateTime.read? s.toList).map dateTime
  | "Uuid" => (readString? content).map uuid
  | "Json" => (ofDocumentWithin? depth content).map json
  | "Verbatim" => (readString? content).map verbatim
  | _ => none

mutual

/-- The value of a document whose brackets are nested at most `depth` deep. -/
def ofDocument? (depth : Nat) : Document → Option SqlValue
  | .text units => (decodeText? units).bind fun tag => if tag = "Null" then some null else none
  | .object [(key, content)] =>
    match depth with
    | 0 => none
    | depth + 1 => (decodeText? key).bind fun tag =>
      if tag = "Array" then (ofArray? depth content).map array
      else ofContent? depth tag content
  | _ => none

/-- The values of a document that is an array of them. -/
def ofArray? (depth : Nat) : Document → Option (List SqlValue)
  | .array items =>
    match depth with
    | 0 => none
    | depth + 1 => ofItems? depth items
  | _ => none

/-- The values of the items of an array. -/
def ofItems? (depth : Nat) : List Document → Option (List SqlValue)
  | [] => some []
  | item :: items => do
    let value ← ofDocument? depth item
    let values ← ofItems? depth items
    return value :: values

end

/-- Reads the JSON text of a value. -/
def readExchange? (s : String) : Option SqlValue :=
  (Document.read? s).bind (ofDocument? maxDepth)

end SqlValue

end SqlSelect
