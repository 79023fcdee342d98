import SqlSelect.Number.Binary

/-!
# `SqlSelect.Number.Numeral`: numbers written in digits

A numeral is a digit string with a power of ten. `Numeral.toBinary` is the binary number nearest
to it. `readBinary?` reads the written forms of a floating-point number: an optional sign, digits
with an optional point and an optional exponent, and the names of what is not finite.
-/

set_option autoImplicit false

namespace SqlSelect.Number

/-- The number `significand · 10 ^ exponent`. -/
structure Numeral where
  significand : Nat
  exponent : Int
  deriving DecidableEq, Repr

/-- The value of a digit; any character has one, which means something for `0` to `9` only. -/
def digitValue (c : Char) : Nat :=
  c.toNat - '0'.toNat

/-- The number that a string of digits writes. -/
def digitsValue (cs : List Char) : Nat :=
  cs.foldl (fun n c => 10 * n + digitValue c) 0

/-- The digits of a number, at least one. -/
def digits (n : Nat) : List Char :=
  Nat.toDigits 10 n

/-- The integer that a text of ASCII digits after an optional sign writes. -/
def readInteger? (cs : List Char) : Option Int :=
  let (negative, ds) := match cs with
    | '-' :: rest => (true, rest)
    | '+' :: rest => (false, rest)
    | _ => (false, cs)
  if ds.isEmpty || !ds.all Char.isDigit then none
  else some (if negative then -(digitsValue ds : Int) else digitsValue ds)

/-- The integer that a text writes, if it lies between the bounds. -/
def readBounded? (low high : Int) (cs : List Char) : Option Int :=
  (readInteger? cs).filter fun n => low ≤ n && n ≤ high

/-- The smallest and the largest integer of 16, 32 and 64 bits. -/
def int16Bounds : Int × Int := (-32768, 32767)

@[inherit_doc int16Bounds]
def int32Bounds : Int × Int := (-2147483648, 2147483647)

@[inherit_doc int16Bounds]
def int64Bounds : Int × Int := (-9223372036854775808, 9223372036854775807)

namespace Numeral

/-- The numeral as a fraction of natural numbers. -/
def ratio (x : Numeral) : Nat × Nat :=
  (x.significand * Nat.pow 10 x.exponent.toNat, Nat.pow 10 (-x.exponent).toNat)

/-- The nearest number of a binary format. A numeral whose first digit stands far outside the
range of the format is decided by its exponent alone, so no huge power is formed. -/
def toBinary {f : BinaryFormat} (negative : Bool) (x : Numeral) : Binary f :=
  let top : Int := (digits x.significand).length + x.exponent
  if x.significand = 0 ∨ top < -(f.scale : Int) then Binary.ofRank negative 0
  else if (f.binades : Int) < top then .infinite negative
  else Binary.ofRatio negative x.ratio.1 x.ratio.2

/-- Reads digits with an optional point among them; the digits after the point lower the
exponent. -/
def readPlain? (cs : List Char) : Option (Numeral × List Char) :=
  let whole := cs.takeWhile Char.isDigit
  match cs.dropWhile Char.isDigit with
  | '.' :: rest =>
    let part := rest.takeWhile Char.isDigit
    if whole.isEmpty && part.isEmpty then none
    else some (⟨digitsValue (whole ++ part), -(part.length : Int)⟩, rest.dropWhile Char.isDigit)
  | rest => if whole.isEmpty then none else some (⟨digitsValue whole, 0⟩, rest)

/-- Reads a numeral with an optional power of ten after `e` or `E`. -/
def read? (cs : List Char) : Option Numeral :=
  (readPlain? cs).bind fun (x, rest) =>
    match rest with
    | [] => some x
    | e :: power =>
      if e = 'e' ∨ e = 'E' then
        (readInteger? power).map fun n => { x with exponent := x.exponent + n }
      else none

end Numeral

/-- Reads the written form of a floating-point number. Letter case does not matter. -/
def readBinary? {f : BinaryFormat} (s : String) : Option (Binary f) :=
  let cs := s.toList.map Char.toLower
  let (negative, magnitude) := match cs with
    | '-' :: rest => (true, rest)
    | '+' :: rest => (false, rest)
    | _ => (false, cs)
  if magnitude = "nan".toList then some .nan
  else if magnitude = "inf".toList ∨ magnitude = "infinity".toList then some (.infinite negative)
  else (Numeral.read? magnitude).map (Numeral.toBinary negative)

end SqlSelect.Number
