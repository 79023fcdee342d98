/-!
# `SqlSelect.Number.Binary`: binary floating-point numbers

A number of a binary format is a multiple of the format's unit `2 ^ -scale`. The non-negative
finite ones are numbered in ascending order from zero: this *rank* is the number itself below the
second binade, and in each later binade there are `2 ^ (precision - 1)` ranks with a step twice as
wide as before. So a rank's neighbours are the neighbours on the number line, rounding to the
nearest with ties to even is rounding to the nearest with ties to an even rank, and overflow is a
rank beyond the last binade.

* `Binary.ofRatio`: the number nearest to a fraction; the one place where rounding happens.
* `Binary.mul`, `Binary.div`, `Binary.convert`: exact arithmetic followed by `ofRatio`.
-/

set_option autoImplicit false

namespace SqlSelect.Number

/-- A binary format: the bits of a significand, the exponent of the unit (its negative) and the
number of binades, the one of the tiny numbers included. -/
structure BinaryFormat where
  precision : Nat
  scale : Nat
  binades : Nat
  deriving DecidableEq, Repr

namespace BinaryFormat

/-- The format of 32 bits. -/
def single : BinaryFormat := ⟨24, 149, 255⟩

/-- The format of 64 bits. -/
def double : BinaryFormat := ⟨53, 1074, 2047⟩

/-- The ranks of one binade. -/
def binadeSize (f : BinaryFormat) : Nat :=
  Nat.pow 2 (f.precision - 1)

/-- The number of finite ranks. -/
def finiteCount (f : BinaryFormat) : Nat :=
  f.binades * f.binadeSize

/-- The number of a rank, counted in units. -/
def units (f : BinaryFormat) (rank : Nat) : Nat :=
  if rank < f.binadeSize then rank
  else (f.binadeSize + rank % f.binadeSize) * Nat.pow 2 (rank / f.binadeSize - 1)

end BinaryFormat

/-- A floating-point number: not a number, an infinity, or a finite number by sign and rank. -/
inductive Binary (f : BinaryFormat) where
  | nan
  | infinite (negative : Bool)
  | finite (negative : Bool) (rank : Fin f.finiteCount)
  deriving DecidableEq, Repr

/-- The quotient rounded to the nearest integer, a tie to the even one. -/
def roundHalfEven (num den : Nat) : Nat :=
  let quotient := num / den
  let twice := 2 * (num % den)
  if twice < den then quotient
  else if den < twice then quotient + 1
  else quotient + quotient % 2

namespace Binary

variable {f : BinaryFormat}

/-- The number of a rank, or the infinity beyond the last one. -/
def ofRank (negative : Bool) (rank : Nat) : Binary f :=
  if h : rank < f.finiteCount then finite negative ⟨rank, h⟩ else infinite negative

/-- The number nearest to `num / den`, a tie to the even rank. The step of the grid at that place
is `2 ^ step` units, and the significand rounded on this grid gives the rank. -/
def ofRatio (negative : Bool) (num den : Nat) : Binary f :=
  let scaled := num * Nat.pow 2 f.scale
  let step := (scaled / den).log2 + 1 - f.precision
  ofRank negative (step * f.binadeSize + roundHalfEven scaled (den * Nat.pow 2 step))

/-- The number nearest to an integer. -/
def ofInt (n : Int) : Binary f :=
  ofRatio (n < 0) n.natAbs 1

/-- Whether the number is neither infinite nor `nan`. -/
def isFinite : Binary f → Bool
  | finite _ _ => true
  | _ => false

/-- The number of the same magnitude with the given sign. -/
def withSign (negative : Bool) : Binary f → Binary f
  | nan => nan
  | infinite _ => infinite negative
  | finite _ rank => finite negative rank

/-- Whether the number is zero, of either sign. -/
def isZero : Binary f → Bool
  | finite _ rank => rank.val == 0
  | _ => false

/-- The product of two finite numbers, rounded; anything else is `nan`. -/
def mul : Binary f → Binary f → Binary f
  | finite m a, finite n b =>
    ofRatio (m != n) (f.units a * f.units b) (Nat.pow 2 (2 * f.scale))
  | _, _ => nan

/-- The quotient of a finite number by a finite number other than zero, rounded; anything else is
`nan`. -/
def div : Binary f → Binary f → Binary f
  | finite m a, finite n b =>
    if b.val = 0 then nan else ofRatio (m != n) (f.units a) (f.units b)
  | _, _ => nan

/-- The nearest number of another format. -/
def convert {g : BinaryFormat} : Binary f → Binary g
  | nan => nan
  | infinite negative => infinite negative
  | finite negative rank => ofRatio negative (f.units rank) (Nat.pow 2 f.scale)

end Binary

end SqlSelect.Number
