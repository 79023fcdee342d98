/-!
# `SqlSelect.Criterion.Pattern`: patterns of LIKE

A pattern may be written with the wildcards `*` and `?` as well as with those of SQL, `%` and `_`.
A backslash takes the meaning from the wildcard behind it. `LikePattern.ofText` puts a pattern into
the form of SQL, and keeps beside it the text that a pattern without wildcards stands for.
-/

set_option autoImplicit false

namespace SqlSelect

/-- A pattern in the form of SQL, with the same characters read as a plain text. -/
structure LikePattern where
  pattern : List Char
  literal : List Char
  hasWildcard : Bool
  deriving DecidableEq, Repr

namespace LikePattern

/-- A pattern with more characters in front that mean themselves. -/
def prepend (pattern literal : List Char) (p : LikePattern) : LikePattern :=
  ⟨pattern ++ p.pattern, literal ++ p.literal, p.hasWildcard⟩

/-- A pattern with one more wildcard in front. -/
def wildcard (c : Char) (p : LikePattern) : LikePattern :=
  ⟨c :: p.pattern, p.literal, true⟩

/-- The pattern that a text spells. -/
def ofChars : List Char → LikePattern
  | [] => ⟨[], [], false⟩
  | ['\\'] => ⟨['\\'], ['\\'], false⟩
  | '\\' :: c :: cs =>
    if c = '*' ∨ c = '?' then prepend [c] [c] (ofChars cs)
    else if c = '%' ∨ c = '_' then prepend ['\\', c] [c] (ofChars cs)
    else prepend ['\\', c] ['\\', c] (ofChars cs)
  | c :: cs =>
    if c = '*' then wildcard '%' (ofChars cs)
    else if c = '?' then wildcard '_' (ofChars cs)
    else if c = '%' ∨ c = '_' then wildcard c (ofChars cs)
    else prepend [c] [c] (ofChars cs)

/-- The pattern that a text spells. -/
def ofText (s : String) : LikePattern :=
  ofChars s.toList

end LikePattern

end SqlSelect
