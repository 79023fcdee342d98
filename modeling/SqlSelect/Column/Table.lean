import SqlSelect.Column.Identifier
import SqlSelect.Error
import SqlSelect.Text.Blank

/-!
# `SqlSelect.Column.Table`: the tables an expression refers to

A qualified column inside an expression names its table: `users.name` and `UPPER(users.name)` the
table `users`, `app.users.id` the table `app.users`. `tableNames` finds them all, each once, in
order of appearance. Text between single quotes is data and is passed over. An expression with no
qualified column must have a wildcard that stands alone, as in `*` or `count(*)`.
-/

set_option autoImplicit false

namespace SqlSelect.Column

open Text

/-! ### Quoted text -/

/-- What follows a quoted text, from behind its opening quote; a doubled quote is part of the
text. Where no closing quote is left, the first quote of the last pair closes it. -/
def afterQuoted? : List Char → Option (List Char)
  | [] => none
  | '\'' :: '\'' :: cs =>
    match afterQuoted? cs with
    | some rest => some rest
    | none => some ('\'' :: cs)
  | '\'' :: cs => some cs
  | _ :: cs => afterQuoted? cs

/-- A quoted text takes up at least its closing quote. -/
theorem length_lt_of_afterQuoted? {cs rest : List Char} (h : afterQuoted? cs = some rest) :
    rest.length < cs.length := by
  fun_induction afterQuoted? cs generalizing rest with
  | case1 => simp at h
  | case2 cs rest' heq ih =>
    have := ih heq
    simp only [Option.some.injEq] at h
    subst h
    simp only [List.length_cons]
    omega
  | case3 cs heq ih =>
    simp only [Option.some.injEq] at h
    subst h
    simp only [List.length_cons]
    omega
  | case4 cs hne =>
    simp only [Option.some.injEq] at h
    subst h
    simp only [List.length_cons]
    omega
  | case5 c cs h1 h2 ih =>
    have := ih h
    simp only [List.length_cons]
    omega

/-- The expression with a blank in the place of each quoted text. -/
def withoutQuoted (cs : List Char) : List Char :=
  match cs with
  | [] => []
  | c :: rest =>
    if c = '\'' then
      match _h : afterQuoted? rest with
      | some after => ' ' :: withoutQuoted after
      | none => c :: withoutQuoted rest
    else c :: withoutQuoted rest
termination_by cs.length
decreasing_by
  · have := length_lt_of_afterQuoted? _h
    simp only [List.length_cons]
    omega
  · simp
  · simp

/-! ### Qualified columns -/

/-- What follows the column itself, an identifier or `*`, at the start of a text. -/
def afterColumn? : List Char → Option (List Char)
  | '*' :: after => some after
  | cs => (readIdentifier? cs).map Prod.snd

/-- A column takes up at least one character. -/
theorem length_lt_of_afterColumn? {cs after : List Char} (h : afterColumn? cs = some after) :
    after.length < cs.length := by
  fun_cases afterColumn? cs with
  | case1 rest =>
    simp only [afterColumn?, Option.some.injEq] at h
    simp [h]
  | case2 cs hne =>
    simp only [afterColumn?, Option.map_eq_some_iff] at h
    obtain ⟨⟨name, rest⟩, h1, rfl⟩ := h
    exact length_lt_of_readIdentifier? h1

/-- The qualified column at the start of a text: the identifiers in front of its last dot, as many
as there can be, and what follows the column. -/
def readQualified? (cs : List Char) : Option (List (List Char) × List Char) :=
  match _h : readIdentifier? cs with
  | some (name, '.' :: rest) =>
    match readQualified? rest with
    | some (names, after) => some (name :: names, after)
    | none => (afterColumn? rest).map fun after => ([name], after)
  | _ => none
termination_by cs.length
decreasing_by
  have := length_lt_of_readIdentifier? _h
  simp only [List.length_cons] at this
  omega

/-- A qualified column uses up at least one character. -/
theorem length_lt_of_readQualified? {cs after : List Char} {names : List (List Char)}
    (h : readQualified? cs = some (names, after)) : after.length < cs.length := by
  fun_induction readQualified? cs generalizing names after with
  | case1 cs name rest hid names' after' hrec ih =>
    have h1 := length_lt_of_readIdentifier? hid
    have h2 := ih hrec
    simp only [Option.some.injEq, Prod.mk.injEq] at h
    obtain ⟨-, rfl⟩ := h
    simp only [List.length_cons] at h1
    omega
  | case2 cs name rest hid hrec ih =>
    have h1 := length_lt_of_readIdentifier? hid
    simp only [Option.map_eq_some_iff, Prod.mk.injEq] at h
    obtain ⟨last, h2, -, rfl⟩ := h
    have h3 := length_lt_of_afterColumn? h2
    simp only [List.length_cons] at h1
    omega
  | case3 => simp at h

/-- Whether a character in front of a qualified column keeps it from being one. -/
def bindsBefore (c : Char) : Bool :=
  isIdentifierPart c || c == '.' || c == '\'' || c == '"'

/-- The tables of the qualified columns of a text, in order and with repetitions. A column stands
at the start of the text (`atStart`) or behind a character that does not bind to it, and this
character counts as used up. -/
def qualifiers (atStart : Bool) (cs : List Char) : List (List Char) :=
  match _h : if atStart then readQualified? cs else none with
  | some (names, after) => ['.'].intercalate names :: qualifiers false after
  | none =>
    match cs with
    | [] => []
    | c :: rest =>
      match _h' : if bindsBefore c then none else readQualified? rest with
      | some (names, after) => ['.'].intercalate names :: qualifiers false after
      | none => qualifiers false rest
termination_by cs.length
decreasing_by
  · split at _h
    · exact length_lt_of_readQualified? _h
    · simp at _h
  · split at _h'
    · simp at _h'
    · have := length_lt_of_readQualified? _h'
      simp only [List.length_cons]
      omega
  · simp

/-- The members of a list, each at its first place. -/
def distinct {α : Type} [DecidableEq α] (xs : List α) : List α :=
  xs.foldl (fun seen x => if x ∈ seen then seen else seen ++ [x]) []

/-! ### Wildcards -/

/-- Whether a `*` stands alone in a text: behind its start (`opened`), a blank, `(` or `,`, and
before its end, a blank, `)` or `,`. -/
def hasWildcard (opened : Bool) : List Char → Bool
  | [] => false
  | c :: cs =>
    (opened && c == '*' && closes cs) || hasWildcard (isBlank c || c == '(' || c == ',') cs
where
  /-- Whether nothing that binds to the `*` follows it. -/
  closes : List Char → Bool
    | [] => true
    | c :: _ => isBlank c || c == ')' || c == ','

/-! ### Tables -/

/-- The tables that an expression refers to. -/
def tableNames (expression : String) : Except QueryError (List String) :=
  let scanned := withoutQuoted expression.toList
  let tables := distinct ((qualifiers true scanned).map String.ofList)
  if tables.isEmpty && !hasWildcard true (trim scanned) then
    .error (.malformedColumn expression)
  else .ok tables

/-- The first table that an expression refers to, if any. -/
def tableName (expression : String) : Except QueryError (Option String) :=
  (tableNames expression).map List.head?

end SqlSelect.Column
