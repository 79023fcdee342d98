import SqlSelect.Json.Basic
import SqlSelect.Json.Syntax

/-!
# `SqlSelect.Json.Reader`: the value of a JSON document

Integers that fit 64 bits, signed or not, stay integers; every other number becomes a
floating-point one. Its value is *not* the nearest number to the digits: the leading digits are
taken as long as they fit 64 bits, rounded, and then multiplied or divided by one power of ten.
A number too large for that is refused, and so are a lone half of a surrogate pair and brackets
nested deeper than `maxDepth`.
-/

set_option autoImplicit false

namespace SqlSelect.Json

open Number

/-! ### Strings -/

/-- Whether a 16-bit unit is the first half of a surrogate pair. -/
def isHighSurrogate (n : Nat) : Bool := 0xd800 ≤ n && n ≤ 0xdbff

/-- Whether a 16-bit unit is the second half of a surrogate pair. -/
def isLowSurrogate (n : Nat) : Bool := 0xdc00 ≤ n && n ≤ 0xdfff

/-- The characters of a string; the halves of a surrogate pair must stand together. -/
def decodeUnits? : List TextUnit → Option (List Char)
  | [] => some []
  | .char c :: rest => (decodeUnits? rest).map (c :: ·)
  | .unit n :: rest =>
    if isLowSurrogate n then none
    else if isHighSurrogate n then
      match rest with
      | .unit m :: rest =>
        if isLowSurrogate m then
          (decodeUnits? rest).map
            (Char.ofNat (0x10000 + (n - 0xd800) * 0x400 + (m - 0xdc00)) :: ·)
        else none
      | _ => none
    else (decodeUnits? rest).map (Char.ofNat n :: ·)

/-- The text of a string. -/
def decodeText? (units : List TextUnit) : Option String :=
  (decodeUnits? units).map String.ofList

/-! ### Numbers -/

/-- The largest unsigned integer of 64 bits. -/
def maxUInt64 : Nat := Nat.pow 2 64 - 1

/-- Takes digits into the significand as long as it fits 64 bits; the rest is returned. -/
def absorb (significand : Nat) : List Char → Nat × List Char
  | [] => (significand, [])
  | c :: cs =>
    let grown := 10 * significand + digitValue c
    if grown ≤ maxUInt64 then absorb grown cs else (significand, c :: cs)

/-- A power of ten as a floating-point number. -/
def powerOfTen (n : Nat) : Binary .double :=
  Binary.ofRatio false (Nat.pow 10 n) 1

/-- The largest power of ten below the infinities. -/
def maxPower : Nat := 308

/-- The number times a power of ten: one multiplication or division, after divisions by the
largest power as long as the exponent lies below all of them. Infinity is refused. -/
def scaleByTen? (x : Binary .double) (exponent : Int) : Option (Binary .double) :=
  if exponent.natAbs ≤ maxPower then
    if 0 ≤ exponent then
      let y := x.mul (powerOfTen exponent.toNat)
      if y.isFinite then some y else none
    else some (x.div (powerOfTen exponent.natAbs))
  else if x.isZero then some x
  else if 0 ≤ exponent then none
  else scaleByTen? (x.div (powerOfTen maxPower)) (exponent + maxPower)
termination_by exponent.natAbs
decreasing_by simp only [maxPower] at *; omega

/-- The largest and the smallest exponent. -/
def maxExponent : Int := 2147483647

/-- The exponent that is left after adding the written one, kept between the bounds. -/
def clampExponent (n : Int) : Int :=
  max (-maxExponent - 1) (min maxExponent n)

/-- The floating-point number that a written number stands for. -/
def Numeric.real? (n : Numeric) : Option (Binary .double) :=
  let (significand, tooMany) := absorb 0 n.whole
  let fraction := n.fraction.getD []
  let (significand, ignored) := absorb significand fraction
  let start : Int := (tooMany.length : Int) - ((fraction.length - ignored.length : Nat) : Int)
  let signed : Binary .double → Binary .double := Binary.withSign n.negative
  let x : Binary .double := Binary.ofInt significand
  match n.exponent with
  | none => (scaleByTen? x start).map signed
  | some (negative, ds) =>
    let power := digitsValue ds
    if (maxExponent : Int) < power then
      if significand ≠ 0 ∧ !negative then none else some (signed (Binary.ofRank false 0))
    else
      let exponent := clampExponent (if negative then start - power else start + power)
      (scaleByTen? x exponent).map signed

/-- The value of a written number. -/
def Numeric.value? (n : Numeric) : Option Json :=
  if n.fraction.isNone && n.exponent.isNone then
    let magnitude := digitsValue n.whole
    if n.negative then
      if 0 < magnitude ∧ magnitude ≤ Nat.pow 2 63 then some (.integer (-(magnitude : Int)))
      else n.real?.map .real
    else if magnitude ≤ maxUInt64 then some (.integer magnitude)
    else n.real?.map .real
  else n.real?.map .real

/-! ### Values -/

/-- The deepest nesting of brackets that is accepted. -/
def maxDepth : Nat := 127

mutual

/-- The value of a document whose brackets are nested at most `depth` deep. -/
def ofDocumentWithin? (depth : Nat) : Document → Option Json
  | .null => some .null
  | .bool b => some (.bool b)
  | .number n => n.value?
  | .text units => (decodeText? units).map .text
  | .array items =>
    match depth with
    | 0 => none
    | depth + 1 => (ofItems? depth items).map .array
  | .object members =>
    match depth with
    | 0 => none
    | depth + 1 => (ofMembers? depth members).map Json.ofMembers

/-- The values of the items of an array. -/
def ofItems? (depth : Nat) : List Document → Option (List Json)
  | [] => some []
  | item :: items => do
    let value ← ofDocumentWithin? depth item
    let values ← ofItems? depth items
    return value :: values

/-- The keys and values of the members of an object, in the order of the text. -/
def ofMembers? (depth : Nat) : List (List TextUnit × Document) → Option (List (String × Json))
  | [] => some []
  | (key, document) :: members => do
    let key ← decodeText? key
    let value ← ofDocumentWithin? depth document
    let rest ← ofMembers? depth members
    return (key, value) :: rest

end

/-- The value of a document. -/
def ofDocument? (document : Document) : Option Json :=
  ofDocumentWithin? maxDepth document

/-- Reads a JSON text. -/
def read? (s : String) : Option Json :=
  (Document.read? s).bind ofDocument?

end SqlSelect.Json
