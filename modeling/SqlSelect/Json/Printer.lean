import SqlSelect.Json.Basic
import SqlSelect.Number.Shortest
import SqlSelect.Text.Quoted

/-!
# `SqlSelect.Json.Printer`: writing JSON text

The text has no spaces. Strings escape the quote, the backslash and the controls below U+0020.
A floating-point number is written with the fewest digits that read back, of two equally near
ones the even one: in positional notation with at least one decimal place as long as the exponent
of its first digit is neither very small nor very large, otherwise with a power of ten that always
has a sign; what is not finite is written as `null`.
-/

set_option autoImplicit false

namespace SqlSelect.Json

open Number Text

/-- How one character is written in a string. -/
def escapeChar (c : Char) : List Char :=
  if c = '"' then ['\\', '"']
  else if c = '\\' then ['\\', '\\']
  else if c = '\x08' then ['\\', 'b']
  else if c = '\x0c' then ['\\', 'f']
  else if c = '\n' then ['\\', 'n']
  else if c = '\r' then ['\\', 'r']
  else if c = '\t' then ['\\', 't']
  else if c.toNat < 0x20 then
    ['\\', 'u'] ++ List.replicate (4 - (hexDigits c.toNat).length) '0' ++ hexDigits c.toNat
  else [c]

/-- A string between quotes. -/
def textOfString (s : String) : String :=
  String.ofList ('"' :: s.toList.flatMap escapeChar ++ ['"'])

/-- The exponents of the first digit that are written in positional notation. -/
structure PlainRange where
  low : Int
  high : Int

/-- Numbers of 64 bits are plain from `0.00001` to below `10 ^ 16`. -/
def doubleRange : PlainRange := ⟨-5, 16⟩

/-- Numbers of 32 bits are plain from `0.000001` to below `10 ^ 13`. -/
def singleRange : PlainRange := ⟨-6, 13⟩

/-- A numeral other than zero, plain or with a power of ten. -/
def textOfNumeral (range : PlainRange) (x : Numeral) : List Char :=
  let ds := digits x.significand
  let first : Int := x.exponent + ds.length - 1
  if range.low ≤ first ∧ first < range.high then
    if 0 ≤ x.exponent then x.plain ++ ['.', '0'] else x.plain
  else
    let mantissa := match ds with
      | d :: e :: rest => d :: '.' :: e :: rest
      | _ => ds
    mantissa ++ 'e' :: (if first < 0 then '-' else '+') :: digits first.natAbs

/-- A floating-point number. -/
def textOfBinary {f : BinaryFormat} (range : PlainRange) : Binary f → String
  | .finite negative rank =>
    String.ofList (signText negative ++
      if rank.val = 0 then ['0', '.', '0']
      else textOfNumeral range (Numeral.shortest f .even rank))
  | _ => "null"

mutual

/-- The text of a JSON value. -/
def print : Json → String
  | .null => "null"
  | .bool b => if b then "true" else "false"
  | .integer n => toString n
  | .real x => textOfBinary doubleRange x
  | .text s => textOfString s
  | .array items => "[" ++ String.intercalate "," (printItems items) ++ "]"
  | .object members => "\x7b" ++ String.intercalate "," (printMembers members) ++ "\x7d"

/-- The texts of the items of an array. -/
def printItems : List Json → List String
  | [] => []
  | item :: items => print item :: printItems items

/-- The texts of the members of an object. -/
def printMembers : List (String × Json) → List String
  | [] => []
  | (key, value) :: members =>
    (textOfString key ++ ":" ++ print value) :: printMembers members

end

end SqlSelect.Json
