import SqlSelect.Calendar.Basic
import SqlSelect.Json.Syntax
import SqlSelect.Number.Numeral
import SqlSelect.Toml.Table

/-!
# `SqlSelect.Toml.Scalar`: values of TOML that are one word

A word that is a value is a truth value, a number, a date, a time of day, or a date with a time,
which may have the distance from universal time behind it. `scalar?` tells which one, if any. A
word can be a number without a value: an integer outside all ranges or without digits behind its
base, and a number with a fraction or an exponent that is too large.
-/

set_option autoImplicit false

namespace SqlSelect.Toml

open Number

/-- Digits of a base with single underscores between them, without the underscores. -/
def plainDigits? (isBaseDigit : Char → Bool) : List Char → Option (List Char)
  | [] => none
  | [c] => if isBaseDigit c then some [c] else none
  | c :: '_' :: rest =>
    if isBaseDigit c then (plainDigits? isBaseDigit rest).map (c :: ·) else none
  | c :: rest => if isBaseDigit c then (plainDigits? isBaseDigit rest).map (c :: ·) else none

/-- Decimal digits without a leading zero. -/
def wholeDigits? (cs : List Char) : Option (List Char) :=
  match plainDigits? Char.isDigit cs with
  | some ('0' :: _ :: _) => none
  | other => other

/-- A word without its sign, and whether the sign is negative. -/
def splitSign : List Char → Bool × List Char
  | '-' :: rest => (true, rest)
  | '+' :: rest => (false, rest)
  | cs => (false, cs)

/-- The number that digits of a base write. -/
def valueInBase (base : Nat) (cs : List Char) : Nat :=
  cs.foldl (fun n c => base * n + (Json.hexValue? c).getD 0) 0

/-- An integer, if it can be represented. -/
def boundedInteger? (n : Int) : Option Int :=
  if -(Nat.pow 2 127 : Int) ≤ n && n < (Nat.pow 2 128 : Int) then some n else none

/-- The integer of the digits of a base, of which there may be none. -/
def integerInBase? (base : Nat) (isBaseDigit : Char → Bool) (cs : List Char) : Option Value :=
  if cs.isEmpty then some (.integer none)
  else (plainDigits? isBaseDigit cs).map fun ds => .integer (boundedInteger? (valueInBase base ds))

/-- Whether a character is a hexadecimal digit. -/
def isHexDigit (c : Char) : Bool :=
  (Json.hexValue? c).isSome

/-- Whether every underscore stands between hexadecimal digits. -/
def isSpaced : List Char → Bool
  | [] => true
  | '_' :: _ => false
  | [_] => true
  | c :: '_' :: d :: rest => isHexDigit c && isHexDigit d && isSpaced (d :: rest)
  | _ :: rest => isSpaced rest

/-- Whether digits with an underscore behind them are at the start of a text. What follows the
underscore decides the value only, as long as it has no mark of a fraction or an exponent. -/
def isGrouped (cs : List Char) : Bool :=
  match cs.dropWhile Char.isDigit with
  | '_' :: _ => isSpaced cs && !cs.any fun c => c == '.' || c == 'e' || c == 'E'
  | _ => false

/-- The decimal integer of a word. -/
def decimal? (cs : List Char) : Option Value :=
  let (negative, magnitude) := splitSign cs
  match wholeDigits? magnitude with
  | some ds =>
    some (.integer (boundedInteger? (if negative then -(digitsValue ds : Int) else digitsValue ds)))
  | none =>
    if isGrouped magnitude && magnitude.head? != some '0' then some (.integer none) else none

/-- The integer of a word. -/
def integer? (cs : List Char) : Option Value :=
  match cs with
  | '0' :: 'x' :: rest => integerInBase? 16 isHexDigit rest
  | '0' :: 'o' :: rest => integerInBase? 8 (fun c => '0' ≤ c && c ≤ '7') rest
  | '0' :: 'b' :: rest => integerInBase? 2 (fun c => c == '0' || c == '1') rest
  | _ => decimal? cs

/-- Whether a text is an exponent behind its `e`: digits after an optional sign. -/
def isExponent (cs : List Char) : Bool :=
  (plainDigits? Char.isDigit (splitSign cs).2).isSome

/-- Whether a character marks an exponent. -/
def isExponentMark (c : Char) : Bool :=
  c == 'e' || c == 'E'

/-- Whether a word is a number with a fraction or an exponent, or one that is not finite. -/
def isFloat (cs : List Char) : Bool :=
  let magnitude := (splitSign cs).2
  let mantissa := magnitude.takeWhile fun c => !isExponentMark c
  let whole := mantissa.takeWhile (· != '.')
  let exponentOk := match magnitude.dropWhile fun c => !isExponentMark c with
    | [] => true
    | _ :: power => isExponent power
  let fractionOk := match mantissa.dropWhile (· != '.') with
    | [] => mantissa.length < magnitude.length
    | _ :: part => (plainDigits? Char.isDigit part).isSome
  magnitude == "inf".toList || magnitude == "nan".toList ||
    ((wholeDigits? whole).isSome && fractionOk && exponentOk)

/-- Reads a number of exactly `width` digits. -/
def readFixed? (width : Nat) (cs : List Char) : Option (Nat × List Char) :=
  let ds := cs.take width
  if ds.length = width && ds.all Char.isDigit then some (digitsValue ds, cs.drop width) else none

/-- Reads one given character. -/
def readMark? (mark : Char) : List Char → Option (List Char)
  | c :: rest => if c = mark then some rest else none
  | [] => none

/-- Reads a date. -/
def readDate? (cs : List Char) : Option (List Char) := do
  let (year, cs) ← readFixed? 4 cs
  let cs ← readMark? '-' cs
  let (month, cs) ← readFixed? 2 cs
  let cs ← readMark? '-' cs
  let (day, cs) ← readFixed? 2 cs
  let _ ← Date.ofParts? year month day
  return cs

/-- Reads the second of a time with its fraction, if there is a second. -/
def readSecond? (cs : List Char) : Option (List Char) :=
  match cs with
  | ':' :: rest => do
    let (second, rest) ← readFixed? 2 rest
    if 60 < second then none
    match rest with
    | '.' :: rest =>
      if (rest.takeWhile Char.isDigit).isEmpty then none
      else return rest.dropWhile Char.isDigit
    | _ => return rest
  | _ => some cs

/-- Reads an hour and a minute. -/
def readHourMinute? (cs : List Char) : Option (List Char) := do
  let (hour, cs) ← readFixed? 2 cs
  let cs ← readMark? ':' cs
  let (minute, cs) ← readFixed? 2 cs
  if hour < 24 ∧ minute < 60 then return cs else none

/-- Reads a time of day. -/
def readTime? (cs : List Char) : Option (List Char) :=
  (readHourMinute? cs).bind readSecond?

/-- Whether a text is a distance from universal time. -/
def isOffset : List Char → Bool
  | ['Z'] => true
  | ['z'] => true
  | c :: rest => (c == '+' || c == '-') && readHourMinute? rest == some []
  | [] => false

/-- Whether a character stands between a date and a time. -/
def isTimeMark (c : Char) : Bool :=
  c == 'T' || c == 't' || c == ' '

/-- Whether a word is a date, a time, or both. -/
def isDateTime (cs : List Char) : Bool :=
  match readDate? cs with
  | some [] => true
  | some (mark :: rest) =>
    isTimeMark mark &&
      match readTime? rest with
      | some [] => true
      | some offset => isOffset offset
      | none => false
  | none => readTime? cs == some []

/-- The number that a word with a fraction or an exponent writes, if it is not too large. -/
def floatValue? (cs : List Char) : Option (Binary .double) :=
  (readBinary? (String.ofList (cs.filter (· != '_')))).filter fun x =>
    x.isFinite || !cs.any Char.isDigit

/-- The value of a word. -/
def scalar? (cs : List Char) : Option Value :=
  if cs = "true".toList then some (.boolean true)
  else if cs = "false".toList then some (.boolean false)
  else
    match integer? cs with
    | some v => some v
    | none =>
      if isFloat cs then some (.float (floatValue? cs))
      else if isDateTime cs then some (.dateTime (String.ofList cs))
      else none

/-- Whether a character may belong to a word. -/
def isWordPart (c : Char) : Bool :=
  !"=,[]\x7b\x7d \t#\r\n".toList.contains c

/-- The word at the start of a text and what follows it. A blank between a date and a time belongs
to the word. -/
def readWord (cs : List Char) : List Char × List Char :=
  let word := cs.takeWhile isWordPart
  match cs.dropWhile isWordPart with
  | ' ' :: d :: rest =>
    if readDate? word == some [] && d.isDigit then
      (word ++ ' ' :: (d :: rest).takeWhile isWordPart, (d :: rest).dropWhile isWordPart)
    else (word, ' ' :: d :: rest)
  | rest => (word, rest)

end SqlSelect.Toml
