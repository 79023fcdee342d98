import SqlSelect.Json.Syntax

/-!
# `SqlSelect.Toml.Text`: strings of TOML

A string stands between double quotes, with escapes, or between single quotes, where every
character means itself. Three quotes on either side let it go over several lines: line breaks are
kept as they are written, but one right behind the opening quotes is dropped, and a backslash at the
end of a line takes the line break with it and all blanks and line breaks that follow. Controls
other than the tab are refused.
-/

set_option autoImplicit false

namespace SqlSelect.Toml

/-- Whether a character may stand in a text or a comment as it is. -/
def isPrintable (c : Char) : Bool :=
  c == '\t' || (0x20 ≤ c.toNat && c.toNat != 0x7f)

/-- Whether a character is a blank within a line. -/
def isSpace (c : Char) : Bool :=
  c == ' ' || c == '\t'

/-- The text without the blanks in front. -/
def skipSpace (cs : List Char) : List Char :=
  cs.dropWhile isSpace

/-- What follows a line break. -/
def afterNewline? : List Char → Option (List Char)
  | '\n' :: cs => some cs
  | '\r' :: '\n' :: cs => some cs
  | _ => none

/-- The character with a number, if there is one. -/
def charOfCode? (n : Nat) : Option Char :=
  if n < 0xd800 ∨ (0xe000 ≤ n ∧ n < 0x110000) then some (Char.ofNat n) else none

/-- The character whose number hexadecimal digits write. -/
def charOfHex? (cs : List Char) : Option Char :=
  (Json.hexNumber? cs).bind charOfCode?

/-- What an escape with one letter stands for. -/
def escaped? : Char → Option Char
  | '"' => some '"'
  | '\\' => some '\\'
  | 'b' => some '\x08'
  | 'e' => some '\x1b'
  | 'f' => some '\x0c'
  | 'n' => some '\n'
  | 'r' => some '\r'
  | 't' => some '\t'
  | _ => none

/-- Reads an escape from behind its backslash. -/
def readEscape? : List Char → Option (Char × List Char)
  | 'x' :: cs => (charOfHex? (cs.take 2)).bind fun c => after 2 c cs
  | 'u' :: cs => (charOfHex? (cs.take 4)).bind fun c => after 4 c cs
  | 'U' :: cs => (charOfHex? (cs.take 8)).bind fun c => after 8 c cs
  | e :: cs => (escaped? e).map fun c => (c, cs)
  | [] => none
where
  /-- The character and what follows its digits, if they were all there. -/
  after (width : Nat) (c : Char) (cs : List Char) : Option (Char × List Char) :=
    if width ≤ cs.length then some (c, cs.drop width) else none

/-- Reads a string on one line from behind its opening quote; `fuel` is large enough at the length
of the text. -/
def readBasic? : Nat → List Char → Option (List Char × List Char)
  | 0, _ => none
  | fuel + 1, cs =>
    match cs with
    | '"' :: rest => some ([], rest)
    | '\\' :: rest => do
      let (c, rest) ← readEscape? rest
      let (text, rest) ← readBasic? fuel rest
      return (c :: text, rest)
    | c :: rest =>
      if isPrintable c then (readBasic? fuel rest).map fun (text, rest) => (c :: text, rest)
      else none
    | [] => none

/-- The text without the blanks and line breaks in front. -/
def skipBreaks : List Char → List Char
  | '\r' :: '\n' :: cs => skipBreaks cs
  | c :: cs => if isSpace c || c == '\n' then skipBreaks cs else c :: cs
  | [] => []

/-- What follows a backslash at the end of a line. -/
def afterLineEnd? (cs : List Char) : Option (List Char) :=
  (afterNewline? (skipSpace cs)).map skipBreaks

/-- The quotes that belong to a text in front of its closing quotes: up to two. -/
def closingQuotes (quote : Char) : List Char → List Char × List Char
  | a :: b :: rest =>
    if a = quote ∧ b = quote then ([a, b], rest)
    else if a = quote then ([a], b :: rest)
    else ([], a :: b :: rest)
  | [a] => if a = quote then ([a], []) else ([], [a])
  | [] => ([], [])

/-- Reads a string over several lines from behind its opening quotes; `fuel` is large enough at the
length of the text. -/
def readLongBasic? : Nat → List Char → Option (List Char × List Char)
  | 0, _ => none
  | fuel + 1, cs =>
    match cs with
    | '"' :: '"' :: '"' :: rest => some (closingQuotes '"' rest)
    | '\\' :: rest =>
      match afterLineEnd? rest with
      | some rest => readLongBasic? fuel rest
      | none => do
        let (c, rest) ← readEscape? rest
        let (text, rest) ← readLongBasic? fuel rest
        return (c :: text, rest)
    | '\r' :: '\n' :: rest =>
      (readLongBasic? fuel rest).map fun (text, rest) => ('\r' :: '\n' :: text, rest)
    | c :: rest =>
      if isPrintable c || c == '\n' then
        (readLongBasic? fuel rest).map fun (text, rest) => (c :: text, rest)
      else none
    | [] => none

/-- Reads a string between single quotes from behind the opening one. -/
def readLiteral? : List Char → Option (List Char × List Char)
  | '\'' :: rest => some ([], rest)
  | c :: rest =>
    if isPrintable c then (readLiteral? rest).map fun (text, rest) => (c :: text, rest) else none
  | [] => none

/-- Reads a string between three single quotes on either side from behind the opening ones. -/
def readLongLiteral? : List Char → Option (List Char × List Char)
  | '\'' :: '\'' :: '\'' :: rest => some (closingQuotes '\'' rest)
  | '\r' :: '\n' :: rest =>
    (readLongLiteral? rest).map fun (text, rest) => ('\r' :: '\n' :: text, rest)
  | c :: rest =>
    if isPrintable c || c == '\n' then
      (readLongLiteral? rest).map fun (text, rest) => (c :: text, rest)
    else none
  | [] => none

/-- The text of a string over several lines without the line break in front. -/
def dropNewline (cs : List Char) : List Char :=
  (afterNewline? cs).getD cs

/-- Reads a string of any kind. -/
def readString? (cs : List Char) : Option (String × List Char) :=
  let read := match cs with
    | '"' :: '"' :: '"' :: rest => readLongBasic? (rest.length + 1) (dropNewline rest)
    | '"' :: rest => readBasic? (rest.length + 1) rest
    | '\'' :: '\'' :: '\'' :: rest => readLongLiteral? (dropNewline rest)
    | '\'' :: rest => readLiteral? rest
    | _ => none
  read.map fun (text, rest) => (String.ofList text, rest)

/-- Reads a string on one line, as a key may be one. -/
def readLineString? (cs : List Char) : Option (String × List Char) :=
  let read := match cs with
    | '"' :: rest => readBasic? (rest.length + 1) rest
    | '\'' :: rest => readLiteral? rest
    | _ => none
  read.map fun (text, rest) => (String.ofList text, rest)

end SqlSelect.Toml
