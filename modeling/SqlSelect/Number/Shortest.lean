import SqlSelect.Number.Numeral

/-!
# `SqlSelect.Number.Shortest`: the fewest digits that read back

A finite binary number is the nearest one to every real of an interval, whose ends count iff the
rank is even. The shortest numeral is found on the decimal grids, from the coarse ones to the fine
ones: on each grid the two neighbours of the number are tried, the first grid with a neighbour in
the interval wins, and of two neighbours the nearer one. The finest grid tried holds the number
itself, so the search always ends.
-/

set_option autoImplicit false

namespace SqlSelect.Number

/-- Which of two equally near numerals is taken. -/
inductive Tie where
  | up
  | even
  deriving DecidableEq, Repr

namespace Numeral

/-- Whether the number of rank `rank` is the one nearest to the numeral. The ends of the interval
lie midway to the neighbours. -/
def roundsTo (f : BinaryFormat) (rank : Nat) (x : Numeral) : Bool :=
  let point := 2 * x.ratio.1 * Nat.pow 2 f.scale
  let low := (f.units (rank - 1) + f.units rank) * x.ratio.2
  let high := (f.units rank + f.units (rank + 1)) * x.ratio.2
  if rank % 2 = 0 then low ≤ point && point ≤ high else low < point && point < high

/-- The neighbour of the number on the grid of multiples of `10 ^ exponent` that reads back as the
number, the nearer one if both do. -/
def onGrid? (f : BinaryFormat) (tie : Tie) (rank : Nat) (exponent : Int) : Option Numeral :=
  let step := (Numeral.mk 1 exponent).ratio
  let num := f.units rank * step.2
  let den := Nat.pow 2 f.scale * step.1
  let below : Numeral := ⟨num / den, exponent⟩
  let above : Numeral := ⟨num / den + 1, exponent⟩
  match below.roundsTo f rank, above.roundsTo f rank with
  | false, false => none
  | true, false => some below
  | false, true => some above
  | true, true =>
    let twice := 2 * (num % den)
    if twice < den then some below
    else if den < twice then some above
    else match tie with
      | .up => some above
      | .even => some (if below.significand % 2 = 0 then below else above)

/-- The first hit on the grids from `10 ^ (finer - scale)` down to `10 ^ -scale`. -/
def shortestFrom (f : BinaryFormat) (tie : Tie) (rank : Nat) : Nat → Numeral
  | 0 => ⟨f.units rank * Nat.pow 5 f.scale, -(f.scale : Int)⟩
  | finer + 1 =>
    match onGrid? f tie rank ((finer + 1 : Nat) - (f.scale : Int)) with
    | some x => x
    | none => shortestFrom f tie rank finer

/-- The numeral with the fewest digits that reads back as the number of rank `rank`. -/
def shortest (f : BinaryFormat) (tie : Tie) (rank : Nat) : Numeral :=
  shortestFrom f tie rank ((digits (f.units rank / Nat.pow 2 f.scale)).length + f.scale)

/-- The numeral in positional notation, without a power of ten. -/
def plain (x : Numeral) : List Char :=
  let ds := digits x.significand
  if 0 ≤ x.exponent then ds ++ List.replicate x.exponent.toNat '0'
  else
    let places := (-x.exponent).toNat
    if places < ds.length then
      ds.take (ds.length - places) ++ '.' :: ds.drop (ds.length - places)
    else '0' :: '.' :: List.replicate (places - ds.length) '0' ++ ds

end Numeral

/-- The sign in front of a number's digits. -/
def signText (negative : Bool) : List Char :=
  if negative then ['-'] else []

/-- A floating-point number as plain text: the fewest digits that read back, in positional
notation however long it gets, without a point after an integer; of two equally near numerals the
upper one. -/
def Binary.plainText {f : BinaryFormat} : Binary f → String
  | .nan => "NaN"
  | .infinite negative => String.ofList (signText negative ++ "inf".toList)
  | .finite negative rank =>
    String.ofList (signText negative ++
      if rank.val = 0 then ['0'] else (Numeral.shortest f .up rank).plain)

end SqlSelect.Number
