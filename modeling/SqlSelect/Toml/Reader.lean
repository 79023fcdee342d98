import SqlSelect.Toml.Scalar
import SqlSelect.Toml.Text

/-!
# `SqlSelect.Toml.Reader`: reading TOML documents

A document is read into its statements, one a line, which are then put together. Values may go over
several lines inside brackets, where line breaks and comments stand around the items, the keys and
the `=` behind them, and a comma may follow the last item. Brackets in brackets and the steps of a
key are limited to `maxDepth`.
-/

set_option autoImplicit false

namespace SqlSelect.Toml

/-- How deep brackets may stand in one another, and how many steps a key may have. -/
def maxDepth : Nat := 80

/-! ### Between the statements -/

/-- What follows a comment and the blanks in front of it, if there is one. -/
def skipComment (cs : List Char) : List Char :=
  match skipSpace cs with
  | '#' :: rest => rest.dropWhile isPrintable
  | rest => rest

/-- What follows the end of a line. -/
def afterLine? (cs : List Char) : Option (List Char) :=
  match skipComment cs with
  | [] => some []
  | rest => afterNewline? rest

/-- What follows the blanks, comments and line breaks at the start of a text; `fuel` is large
enough at the length of the text. -/
def skipLinesWithin : Nat → List Char → List Char
  | 0, cs => cs
  | fuel + 1, cs =>
    let rest := skipComment cs
    match afterNewline? rest with
    | some rest => skipLinesWithin fuel rest
    | none => rest

/-- What follows the blanks, comments and line breaks at the start of a text. -/
def skipLines (cs : List Char) : List Char :=
  skipLinesWithin cs.length cs

/-! ### Keys -/

/-- Whether a character may stand in a key without quotes. -/
def isBareKeyPart (c : Char) : Bool :=
  c.isAlphanum || c == '_' || c == '-'

/-- Reads one step of a key. -/
def readKeyStep? (cs : List Char) : Option (String × List Char) :=
  match readLineString? cs with
  | some read => some read
  | none =>
    let name := cs.takeWhile isBareKeyPart
    if name.isEmpty then none else some (String.ofList name, cs.dropWhile isBareKeyPart)

/-- Reads the steps of a key with dots between them; `fuel` is large enough at the length of the
text. -/
def readKeySteps? : Nat → List Char → Option (Key × List Char)
  | 0, _ => none
  | fuel + 1, cs => do
    let (step, cs) ← readKeyStep? (skipSpace cs)
    match skipSpace cs with
    | '.' :: rest =>
      let (key, rest) ← readKeySteps? fuel rest
      return (⟨step :: key.path, key.name⟩, rest)
    | rest => return (⟨[], step⟩, rest)

/-- Reads a key. -/
def readKey? (cs : List Char) : Option (Key × List Char) :=
  (readKeySteps? (cs.length + 1) cs).filter fun (key, _) => key.steps.length ≤ maxDepth

/-- Reads a key and the `=` behind it, with what `skip` leaves out on either side of it. -/
def readKeyEq? (skip : List Char → List Char) (cs : List Char) : Option (Key × List Char) := do
  let (key, cs) ← readKey? cs
  let cs ← readMark? '=' (skip cs)
  return (key, skip cs)

/-! ### Values -/

mutual

/-- Reads a value with at most `depth` brackets in one another; `fuel` bounds the steps and is large
enough at twice the length of the text. -/
def readValue? (fuel depth : Nat) (cs : List Char) : Option (Value × List Char) :=
  match fuel with
  | 0 => none
  | fuel + 1 =>
    match cs with
    | '[' :: rest =>
      if depth = 0 then none
      else (readItems? fuel (depth - 1) rest).map fun (items, rest) => (.array items, rest)
    | '\x7b' :: rest =>
      if depth = 0 then none
      else do
        let (pairs, rest) ← readPairs? fuel (depth - 1) rest
        let table ← inlineTable? pairs
        return (table, rest)
    | cs =>
      match readString? cs with
      | some (s, rest) => some (.string s, rest)
      | none =>
        let (word, rest) := readWord cs
        (scalar? word).map fun v => (v, rest)

/-- Reads the items of an array up to its closing bracket. -/
def readItems? (fuel depth : Nat) (cs : List Char) : Option (List Value × List Char) :=
  match fuel with
  | 0 => none
  | fuel + 1 =>
    match skipLines cs with
    | ']' :: rest => some ([], rest)
    | cs => do
      let (item, cs) ← readValue? fuel depth cs
      match skipLines cs with
      | ',' :: rest =>
        let (items, rest) ← readItems? fuel depth rest
        return (item :: items, rest)
      | ']' :: rest => return ([item], rest)
      | _ => none

/-- Reads the keys and values of an inline table up to its closing brace. -/
def readPairs? (fuel depth : Nat) (cs : List Char) : Option (List (Key × Value) × List Char) :=
  match fuel with
  | 0 => none
  | fuel + 1 =>
    match skipLines cs with
    | '\x7d' :: rest => some ([], rest)
    | cs => do
      let (key, cs) ← readKeyEq? skipLines cs
      let (v, cs) ← readValue? fuel depth cs
      match skipLines cs with
      | ',' :: rest =>
        let (pairs, rest) ← readPairs? fuel depth rest
        return ((key, v) :: pairs, rest)
      | '\x7d' :: rest => return ([(key, v)], rest)
      | _ => none

end

/-! ### Documents -/

/-- Reads a statement. -/
def readStatement? (cs : List Char) : Option (Statement × List Char) :=
  match cs with
  | '[' :: '[' :: rest => do
    let (key, rest) ← readKey? rest
    let rest ← readMark? ']' rest
    let rest ← readMark? ']' rest
    return (.arrayHeader key, rest)
  | '[' :: rest => do
    let (key, rest) ← readKey? rest
    let rest ← readMark? ']' rest
    return (.header key, rest)
  | _ => do
    let (key, rest) ← readKeyEq? skipSpace cs
    let (v, rest) ← readValue? (2 * rest.length + 2) maxDepth rest
    return (.entry key v, rest)

/-- Reads the statements of a document; `fuel` is large enough at the length of the text. -/
def readStatements? : Nat → List Char → Option (List Statement)
  | 0, _ => none
  | fuel + 1, cs =>
    match skipLines cs with
    | [] => some []
    | cs => do
      let (statement, cs) ← readStatement? cs
      let cs ← afterLine? cs
      let statements ← readStatements? fuel cs
      return statement :: statements

/-- The mark that some writers put in front of a text to show how it is encoded. -/
def byteOrderMark : Char := '\ufeff'

/-- Reads a document. -/
def read? (s : String) : Option (List (String × Value)) :=
  let cs := match s.toList with
    | c :: rest => if c = byteOrderMark then rest else c :: rest
    | [] => []
  (readStatements? (cs.length + 1) cs).bind ofStatements?

end SqlSelect.Toml
