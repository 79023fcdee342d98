import SqlSelect.Text.WordChar

/-!
# `SqlSelect.Column.Identifier`: identifiers and paths of them

An identifier starts with an ASCII letter or an underscore and goes on with word characters and
dollar signs. A path is a list of identifiers with dots between them, perhaps with `.*` at its
end.
-/

set_option autoImplicit false

namespace SqlSelect.Column

open Text

/-- Whether a character may start an identifier. -/
def isIdentifierStart (c : Char) : Bool :=
  c.isAlpha || c == '_'

/-- Whether a character may continue an identifier. -/
def isIdentifierPart (c : Char) : Bool :=
  isWordChar c || c == '$'

/-- The identifier at the start of a text, as long as it goes, and what follows it. -/
def readIdentifier? : List Char → Option (List Char × List Char)
  | [] => none
  | c :: cs =>
    if isIdentifierStart c then
      some (c :: cs.takeWhile isIdentifierPart, cs.dropWhile isIdentifierPart)
    else none

/-- Reading an identifier uses up at least its first character. -/
theorem length_lt_of_readIdentifier? {cs name rest : List Char}
    (h : readIdentifier? cs = some (name, rest)) : rest.length < cs.length := by
  cases cs with
  | nil => simp [readIdentifier?] at h
  | cons c cs =>
    simp only [readIdentifier?] at h
    split at h
    · simp only [Option.some.injEq, Prod.mk.injEq] at h
      obtain ⟨-, rfl⟩ := h
      have := (List.dropWhile_suffix (l := cs) isIdentifierPart).length_le
      simp only [List.length_cons]
      omega
    · simp at h

/-- Whether a text is a path of identifiers. -/
def isPath (cs : List Char) : Bool :=
  match _h : readIdentifier? cs with
  | some (_, []) => true
  | some (_, '.' :: rest) => rest == ['*'] || isPath rest
  | _ => false
termination_by cs.length
decreasing_by
  have := length_lt_of_readIdentifier? _h
  simp only [List.length_cons] at this
  omega

/-- Whether an expression is a plain path such as `t.c` or `s.t.*`. -/
def isIdentifierPath (expression : String) : Bool :=
  isPath expression.toList

end SqlSelect.Column
