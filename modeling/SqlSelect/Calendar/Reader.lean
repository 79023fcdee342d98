import SqlSelect.Calendar.Basic
import SqlSelect.Text.Blank

/-!
# `SqlSelect.Calendar.Reader`: reading dates and times

The written form of a date is year, month and day with hyphens between them, of a time hour,
minute and perhaps second with colons, and of both the two with a `T` between them. Blanks may
stand in front of every part but the fraction of a second, and at the end. A part below the year
has one or two digits; a year has up to four, or any number of them after a sign. The second 60
is a leap second. A fraction is read to nine places and cut there.
-/

set_option autoImplicit false

namespace SqlSelect.Calendar

open Text Number

/-- Reads an unsigned number of at most `width` digits after blanks. -/
def readNumber? (width : Nat) (cs : List Char) : Option (Nat × List Char) :=
  let cs := trimStart cs
  let ds := (cs.take width).takeWhile Char.isDigit
  if ds.isEmpty then none else some (digitsValue ds, cs.drop ds.length)

/-- Reads a year after blanks: up to four digits, or a sign and any number of digits. -/
def readYear? (cs : List Char) : Option (Int × List Char) :=
  match trimStart cs with
  | '-' :: rest => (readSigned? rest).map fun (n, rest) => (-(n : Int), rest)
  | '+' :: rest => (readSigned? rest).map fun (n, rest) => ((n : Int), rest)
  | cs => (readNumber? 4 cs).map fun (n, rest) => ((n : Int), rest)
where
  /-- The digits right after a sign. -/
  readSigned? (cs : List Char) : Option (Nat × List Char) :=
    let ds := cs.takeWhile Char.isDigit
    if ds.isEmpty then none else some (digitsValue ds, cs.dropWhile Char.isDigit)

/-- Reads the character `c` after blanks. -/
def readMark? (c : Char) (cs : List Char) : Option (List Char) :=
  match trimStart cs with
  | d :: rest => if d = c then some rest else none
  | [] => none

/-- Reads the fraction of a second in nanoseconds, zero if there is none. -/
def readFraction? (cs : List Char) : Option (Nat × List Char) :=
  match cs with
  | '.' :: rest =>
    let ds := rest.takeWhile Char.isDigit
    let kept := ds.take 9
    if ds.isEmpty then none
    else some (digitsValue kept * Nat.pow 10 (9 - kept.length), rest.dropWhile Char.isDigit)
  | _ => some (0, cs)

/-- Reads a date. -/
def readDatePart? (cs : List Char) : Option (Date × List Char) := do
  let (year, cs) ← readYear? cs
  let cs ← readMark? '-' cs
  let (month, cs) ← readNumber? 2 cs
  let cs ← readMark? '-' cs
  let (day, cs) ← readNumber? 2 cs
  let date ← Date.ofParts? year month day
  return (date, cs)

/-- Reads hour and minute. -/
def readHourMinute? (cs : List Char) : Option ((Nat × Nat) × List Char) := do
  let (hour, cs) ← readNumber? 2 cs
  let cs ← readMark? ':' cs
  let (minute, cs) ← readNumber? 2 cs
  return ((hour, minute), cs)

/-- Reads a second with its fraction. -/
def readSecond? (cs : List Char) : Option ((Nat × Nat) × List Char) := do
  let cs ← readMark? ':' cs
  let (second, cs) ← readNumber? 2 cs
  let (nano, cs) ← readFraction? cs
  return ((second, nano), cs)

/-- The time of the parts read; second 60 is the leap second after second 59. -/
def timeOfParts? (hour minute second nano : Nat) : Option Time :=
  if second = 60 then Time.ofParts? hour minute 59 (1000000000 + nano)
  else Time.ofParts? hour minute second nano

/-- Whether nothing but blanks is left. -/
def atEnd (cs : List Char) : Bool :=
  (trimStart cs).isEmpty

end SqlSelect.Calendar

namespace SqlSelect

open Calendar

/-- Reads the written form of a date. -/
def Date.read? (cs : List Char) : Option Date := do
  let (date, cs) ← readDatePart? cs
  if atEnd cs then return date else none

/-- Reads the written form of a time; the second may be absent. -/
def Time.read? (cs : List Char) : Option Time := do
  let ((hour, minute), cs) ← readHourMinute? cs
  if atEnd cs then timeOfParts? hour minute 0 0
  else
    let ((second, nano), cs) ← readSecond? cs
    if atEnd cs then timeOfParts? hour minute second nano else none

/-- Reads the written form of a date with a time. -/
def DateTime.read? (cs : List Char) : Option DateTime := do
  let (date, cs) ← readDatePart? cs
  let cs ← readMark? 'T' cs
  let ((hour, minute), cs) ← readHourMinute? cs
  let ((second, nano), cs) ← readSecond? cs
  let time ← timeOfParts? hour minute second nano
  if atEnd cs then return ⟨date, time⟩ else none

end SqlSelect
