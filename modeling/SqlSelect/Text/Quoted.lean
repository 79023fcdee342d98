import SqlSelect.Text.Hidden

/-!
# `SqlSelect.Text.Quoted`: texts shown between double quotes

A text in a message stands between double quotes; quotes and backslashes get a backslash in front,
four controls have short names, and every other hidden character is spelled by its code point in
lower-case hexadecimal between braces.
-/

set_option autoImplicit false

namespace SqlSelect.Text

/-- The digits of a number in lower-case hexadecimal. -/
def hexDigits (n : Nat) : List Char :=
  Nat.toDigits 16 n

/-- How one character is shown between double quotes. -/
def showChar (c : Char) : List Char :=
  if c = '"' then ['\\', '"']
  else if c = '\\' then ['\\', '\\']
  else if c = '\n' then ['\\', 'n']
  else if c = '\r' then ['\\', 'r']
  else if c = '\t' then ['\\', 't']
  else if c = '\x00' then ['\\', '0']
  else if isHidden c then ['\\', 'u', '\x7b'] ++ hexDigits c.toNat ++ ['\x7d']
  else [c]

/-- The text between double quotes. -/
def showQuoted (s : String) : String :=
  String.ofList ('"' :: s.toList.flatMap showChar ++ ['"'])

/-- The quoted texts of a list between brackets. -/
def showQuotedList (texts : List String) : String :=
  "[" ++ String.intercalate ", " (texts.map showQuoted) ++ "]"

end SqlSelect.Text
