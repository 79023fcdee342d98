import SqlSelect.Number.Numeral

/-!
# `SqlSelect.Number.FixedPoint`: decimal numbers with a fixed number of places

A fixed-point number is a coefficient of at most 96 bits with 0 to 28 decimal places. The places
are part of the number: `1.50` and `1.5` are two of them.

* `FixedPoint.readPlain?` reads an optional sign and digits with an optional point; underscores
  may stand after a digit. The first digit after the point that no longer fits rounds the number, a
  half up, and those behind it do not count. An underscore right behind the last place cuts a
  narrow coefficient off instead.
* `FixedPoint.readScientific?` reads such a number with a power of ten behind it, and rounds it to
  the places that there are.
* `FixedPoint.read?` reads a number of either form.
* `FixedPoint.text` writes all places.
-/

set_option autoImplicit false

namespace SqlSelect.Number

/-- The first coefficient that does not fit. -/
def coefficientBound : Nat := Nat.pow 2 96

/-- The largest number of decimal places. -/
def maxPlaces : Nat := 28

/-- A coefficient below this bound, 255 less than the largest one that takes one more digit within
64 bits, is narrow. -/
def narrowBound : Nat := (Nat.pow 2 64 - 1) / 10 - 255

/-- A decimal number `± coefficient · 10 ^ -places`. A zero that is left over from rounding a
negative number keeps the sign. -/
structure FixedPoint where
  negative : Bool
  coefficient : Nat
  places : Nat
  coefficient_lt : coefficient < coefficientBound
  places_le : places ≤ maxPlaces
  deriving DecidableEq, Repr

namespace FixedPoint

/-- The number of the given sign and parts, if they fit. -/
def ofSigned? (negative : Bool) (coefficient places : Nat) : Option FixedPoint :=
  if h : coefficient < coefficientBound ∧ places ≤ maxPlaces then
    some ⟨negative, coefficient, places, h.1, h.2⟩
  else none

/-- The number of the given parts, if they fit; zero has no sign. -/
def ofParts? (negative : Bool) (coefficient places : Nat) : Option FixedPoint :=
  ofSigned? (negative && coefficient != 0) coefficient places

/-- An integer, if it fits. -/
def ofInt? (n : Int) : Option FixedPoint :=
  ofParts? (n < 0) n.natAbs 0

/-- What has been read of a number: its coefficient, whether the point has been passed, the digits
after it, and whether there was a digit at all. -/
structure Reading where
  coefficient : Nat
  pointed : Bool
  places : Nat
  digitSeen : Bool

/-- Whether a coefficient with all places is cut off and not rounded: it was narrow before its last
digit, and an underscore follows. -/
def isCutOff (r : Reading) (rest : List Char) : Bool :=
  rest.head? == some '_' && r.coefficient / 10 < narrowBound

/-- The number whose remaining digits no longer fit: a first one from five on rounds the coefficient
up, and a coefficient that grows out of its bound loses its last place. -/
def roundOff? (negative : Bool) (r : Reading) (rest : List Char) : Option FixedPoint :=
  if !rest.all (fun c => c.isDigit || c == '_') then none
  else if isCutOff r rest || (rest.find? Char.isDigit).all fun c => digitValue c < 5 then
    ofParts? negative r.coefficient r.places
  else if r.coefficient + 1 < coefficientBound then
    ofParts? negative (r.coefficient + 1) r.places
  else if r.places = 0 then none
  else ofParts? negative ((r.coefficient + 5) / 10) (r.places - 1)

/-- Reads on from what has been read. -/
def readOn? (negative : Bool) : Reading → List Char → Option FixedPoint
  | r, [] => if r.digitSeen then ofParts? negative r.coefficient r.places else none
  | r, c :: cs =>
    if r.pointed ∧ maxPlaces ≤ r.places then roundOff? negative r (c :: cs)
    else if c.isDigit then
      let grown := 10 * r.coefficient + digitValue c
      if grown < coefficientBound then
        readOn? negative ⟨grown, r.pointed, if r.pointed then r.places + 1 else 0, true⟩ cs
      else if r.pointed then roundOff? negative r (c :: cs)
      else none
    else if c = '.' ∧ !r.pointed then readOn? negative { r with pointed := true } cs
    else if c = '_' ∧ r.digitSeen then readOn? negative r cs
    else none

/-- Reads an optional sign and a number. -/
def readPlain? (cs : List Char) : Option FixedPoint :=
  let start : Reading := ⟨0, false, 0, false⟩
  match cs with
  | '-' :: rest => readOn? true start rest
  | '+' :: rest => readOn? false start rest
  | _ => readOn? false start cs

/-- The number times `10 ^ power`. Places are used up first; where none is left the coefficient
grows, and the result is an integer. -/
def raise? (x : FixedPoint) (power : Nat) : Option FixedPoint :=
  if power ≤ x.places then ofParts? x.negative x.coefficient (x.places - power)
  else if maxPlaces < power then none
  else ofParts? x.negative (x.coefficient * Nat.pow 10 (power - x.places)) 0

/-- A coefficient without its last digits, rounded with a half up. -/
def dropDigits (coefficient count : Nat) : Nat :=
  (coefficient + Nat.pow 10 count / 2) / Nat.pow 10 count

/-- The number divided by `10 ^ power` and rounded to the places that there are. -/
def lower? (x : FixedPoint) (power : Nat) : Option FixedPoint :=
  let places := x.places + power
  let excess := places - maxPlaces
  if maxPlaces < power then none
  else ofSigned? x.negative (dropDigits x.coefficient excess) (places - excess)

/-- The unsigned exponent that a text of digits after an optional `+` writes, below `2 ^ 32`. -/
def readPower? (cs : List Char) : Option Nat :=
  let ds := match cs with
    | '+' :: rest => rest
    | _ => cs
  if ds.isEmpty || !ds.all Char.isDigit || Nat.pow 2 32 ≤ digitsValue ds then none
  else some (digitsValue ds)

/-- Reads a number with a power of ten behind `e` or `E`. -/
def readScientific? (cs : List Char) : Option FixedPoint :=
  let isMark : Char → Bool := fun c => c == 'e' || c == 'E'
  match cs.dropWhile (!isMark ·) with
  | [] => none
  | _ :: power =>
    (readPlain? (cs.takeWhile (!isMark ·))).bind fun x =>
      match power with
      | '-' :: rest => (readPower? rest).bind x.lower?
      | _ => (readPower? power).bind x.raise?

/-- Reads a number with or without a power of ten. -/
def read? (cs : List Char) : Option FixedPoint :=
  (readPlain? cs).or (readScientific? cs)

/-- All digits of the number, with a point before the decimal places. -/
def text (x : FixedPoint) : String :=
  let ds := digits x.coefficient
  let ds := List.replicate (x.places + 1 - ds.length) '0' ++ ds
  let whole := ds.take (ds.length - x.places)
  let part := ds.drop (ds.length - x.places)
  String.ofList ((if x.negative then ['-'] else []) ++ whole ++
    if part.isEmpty then [] else '.' :: part)

end FixedPoint

end SqlSelect.Number
