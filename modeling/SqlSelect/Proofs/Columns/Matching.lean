import Mathlib.Data.List.DropRight
import SqlSelect.Proofs.Columns.Qualifiers
import SqlSelect.Proofs.Columns.Regex

/-!
# `SqlSelect.Proofs.Columns.Matching`: the scanners as regular expressions

Quoted texts, qualified columns and wildcards are each given by a regular expression, and
`Column.tableNames` has a scanner for each. The scanners never go back over a text: where there is a
choice, each of them takes the preferred match at once.

* `Column.head?_ends_quotedTail`, `Column.qualifiedEnds?_eq`: what the scanners read from a position
  is what the preferred match takes up.
* `Column.withoutQuoted_eq`, `Column.qualifiers_eq`, `Column.hasWildcard_eq`: the scans of a text.
* `Column.tableNames_eq_matching`: the tables of an expression.
-/

set_option autoImplicit false

namespace SqlSelect

open Text

namespace Column

open Regex

/-! ### Quoted text -/

/-- A quote. -/
def quoteRegex : Regex :=
  .char (· == '\'')

/-- A character of a quoted text, or a doubled quote. -/
def quotedCharRegex : Regex :=
  .alt (.char (· != '\'')) (.seq quoteRegex quoteRegex)

/-- What stands behind an opening quote. -/
def quotedTailRegex : Regex :=
  .seq (.star quotedCharRegex) quoteRegex

/-- A quoted text. -/
def quotedTextRegex : Regex :=
  .seq quoteRegex quotedTailRegex

variable {c : Char} {cs : List Char}

/-- A quote matches no other character. -/
theorem ends_quote_of_ne (hc : c ≠ '\'') (atStart : Bool) (cs : List Char) :
    quoteRegex.ends ⟨atStart, c :: cs⟩ = [] :=
  ends_char_of_eq_false (beq_eq_false_iff_ne.mpr hc) atStart cs

/-- Where the text goes on, it goes on before it is closed, as one more repetition is tried first.
-/
theorem ends_quotedTail_of_ends {p q : Position} (h : quotedCharRegex.ends p = [q])
    (hlength : q.rest.length < p.rest.length) :
    quotedTailRegex.ends p = quotedTailRegex.ends q ++ quoteRegex.ends p := by
  show ((Regex.star quotedCharRegex).ends p).flatMap quoteRegex.ends = _
  rw [ends_star_of_ends h hlength, List.flatMap_append, List.flatMap_singleton]
  rfl

/-- Where the text cannot go on, it can only be closed. -/
theorem ends_quotedTail_of_nil {p : Position} (h : quotedCharRegex.ends p = []) :
    quotedTailRegex.ends p = quoteRegex.ends p := by
  show ((Regex.star quotedCharRegex).ends p).flatMap quoteRegex.ends = _
  rw [ends_star_of_nil h, List.flatMap_singleton]

/-- A doubled quote is part of the text, or else its first quote closes it. -/
theorem ends_quotedTail_twice (atStart : Bool) (cs : List Char) :
    quotedTailRegex.ends ⟨atStart, '\'' :: '\'' :: cs⟩
      = quotedTailRegex.ends ⟨false, cs⟩ ++ [⟨false, '\'' :: cs⟩] := by
  have hlength : cs.length < ('\'' :: '\'' :: cs).length := by
    rw [List.length_cons, List.length_cons]
    omega
  exact ends_quotedTail_of_ends rfl hlength

/-- A quote that is not doubled closes the text. -/
theorem ends_quotedTail_close (h : cs.head? ≠ some '\'') (atStart : Bool) :
    quotedTailRegex.ends ⟨atStart, '\'' :: cs⟩ = [⟨false, cs⟩] := by
  have hnone : quotedCharRegex.ends ⟨atStart, '\'' :: cs⟩ = [] := by
    show [] ++ [(⟨false, cs⟩ : Position)].flatMap quoteRegex.ends = []
    rw [List.nil_append, List.flatMap_singleton]
    cases cs with
    | nil => rfl
    | cons c rest =>
      have hc : c ≠ '\'' := by
        rintro rfl
        exact h rfl
      exact ends_quote_of_ne hc false rest
  rw [ends_quotedTail_of_nil hnone]
  rfl

/-- A character that is no quote is part of the text and closes nothing. -/
theorem ends_quotedTail_of_ne (hc : c ≠ '\'') (atStart : Bool) (cs : List Char) :
    quotedTailRegex.ends ⟨atStart, c :: cs⟩ = quotedTailRegex.ends ⟨false, cs⟩ := by
  have hother : quotedCharRegex.ends ⟨atStart, c :: cs⟩ = [⟨false, cs⟩] := by
    show (Regex.char (· != '\'')).ends ⟨atStart, c :: cs⟩ ++
      (quoteRegex.ends ⟨atStart, c :: cs⟩).flatMap quoteRegex.ends = _
    rw [ends_quote_of_ne hc, ends_char_cons, if_pos (bne_iff_ne.mpr hc)]
    rfl
  rw [ends_quotedTail_of_ends hother (Nat.lt_succ_self _), ends_quote_of_ne hc, List.append_nil]

/-- The scanner of quoted text ends where the preferred match ends. -/
theorem head?_ends_quotedTail (atStart : Bool) (cs : List Char) :
    (quotedTailRegex.ends ⟨atStart, cs⟩).head? = (afterQuoted? cs).map (⟨false, ·⟩) := by
  fun_induction afterQuoted? cs generalizing atStart with
  | case1 =>
    rw [ends_quotedTail_of_nil rfl]
    rfl
  | case2 cs rest hrest ih =>
    rw [ends_quotedTail_twice, List.head?_append, ih, hrest]
    rfl
  | case3 cs hrest ih =>
    -- Nothing closes the text behind the pair, so the match goes back to the first quote of it.
    rw [ends_quotedTail_twice, List.head?_append, ih, hrest]
    rfl
  | case4 cs hsingle =>
    have hhead : cs.head? ≠ some '\'' := by
      intro hhead
      obtain ⟨rest, rfl⟩ := List.head?_eq_some_iff.mp hhead
      exact hsingle rest rfl
    rw [ends_quotedTail_close hhead]
    rfl
  | case5 c cs hpair hquote ih =>
    have hc : c ≠ '\'' := fun heq => hquote heq
    rw [ends_quotedTail_of_ne hc, ih]

/-- A quoted text is found where a quote opens it and the scanner finds its end. -/
theorem next?_quotedText (atStart : Bool) (c : Char) (cs : List Char) :
    quotedTextRegex.next? ⟨atStart, c :: cs⟩
      = if c = '\'' then (afterQuoted? cs).map (⟨false, ·⟩) else none := by
  by_cases hc : c = '\''
  · subst hc
    rw [if_pos rfl]
    apply next?_eq_of_head?
    · show ([(⟨false, cs⟩ : Position)].flatMap quotedTailRegex.ends).head? = _
      rw [List.flatMap_singleton, head?_ends_quotedTail]
    · intro q hq
      obtain ⟨after, hafter, rfl⟩ := Option.map_eq_some_iff.mp hq
      have hlength := length_lt_of_afterQuoted? hafter
      show after.length < cs.length + 1
      omega
  · rw [if_neg hc]
    apply next?_eq_of_head?
    · show ((quoteRegex.ends ⟨atStart, c :: cs⟩).flatMap quotedTailRegex.ends).head? = none
      rw [ends_quote_of_ne hc]
      rfl
    · intro q hq
      cases hq

/-- A blank stands in the place of each quoted text. -/
theorem withoutQuoted_eq (atStart : Bool) (cs : List Char) :
    withoutQuoted cs
      = (quotedTextRegex.pieces ⟨atStart, cs⟩).map (Sum.elim id fun _ => ' ') := by
  fun_induction withoutQuoted cs generalizing atStart with
  | case1 =>
    rw [pieces_nil rfl]
    rfl
  | case2 rest after hafter ih =>
    have hnext : quotedTextRegex.next? ⟨atStart, '\'' :: rest⟩ = some ⟨false, after⟩ := by
      rw [next?_quotedText, if_pos rfl, hafter]
      rfl
    rw [pieces_of_some hnext, ih false]
    rfl
  | case3 rest hafter ih =>
    -- A quote that nothing closes is a character, as the search finds no match there.
    have hnext : quotedTextRegex.next? ⟨atStart, '\'' :: rest⟩ = none := by
      rw [next?_quotedText, if_pos rfl, hafter]
      rfl
    rw [pieces_cons hnext, ih false]
    rfl
  | case4 c rest hc ih =>
    have hnext : quotedTextRegex.next? ⟨atStart, c :: rest⟩ = none := by
      rw [next?_quotedText, if_neg hc]
    rw [pieces_cons hnext, ih false]
    rfl

/-! ### Qualified columns -/

/-- An identifier. -/
def identifierRegex : Regex :=
  .seq (.char isIdentifierStart) (.star (.char isIdentifierPart))

/-- An identifier and the dot behind it. -/
def dottedRegex : Regex :=
  .seq identifierRegex (.char (· == '.'))

/-- The identifiers in front of a column, each with its dot. -/
def qualifierRegex : Regex :=
  dottedRegex.plus

/-- A column without its qualifier, or a `*`. -/
def columnRegex : Regex :=
  .alt identifierRegex (.char (· == '*'))

/-- The start of the text, or a character that does not bind to a column behind it. -/
def boundaryRegex : Regex :=
  .alt .start (.char fun c => !bindsBefore c)

/-- A qualified column with the character in front of it. -/
def qualifiedRegex : Regex :=
  .seq boundaryRegex (.seq qualifierRegex columnRegex)

/-- The scanner takes the longest identifier, and this is the match that is tried first. The shorter
ones leave a part of the identifier behind them, so what follows an identifier does not match there.
-/
theorem ends_identifier (p : Position) :
    match readIdentifier? p.rest with
    | some (_, rest) => ∃ others, identifierRegex.ends p = ⟨false, rest⟩ :: others ∧
        ∀ q ∈ others, ∃ c behind, q.rest = c :: behind ∧ isIdentifierPart c = true
    | none => identifierRegex.ends p = [] := by
  obtain ⟨atStart, cs⟩ := p
  cases cs with
  | nil => rfl
  | cons c cs =>
    -- The longest match comes first, since one more repetition is tried before none.
    by_cases hc : isIdentifierStart c = true
    · have hends : identifierRegex.ends ⟨atStart, c :: cs⟩
          = (Regex.star (.char isIdentifierPart)).ends ⟨false, cs⟩ := by
        show (if isIdentifierStart c then [(⟨false, cs⟩ : Position)] else []).flatMap _ = _
        rw [if_pos hc, List.flatMap_singleton]
      rw [readIdentifier?, if_pos hc, hends]
      exact ends_star_char isIdentifierPart cs
    · rw [readIdentifier?, if_neg hc]
      show (if isIdentifierStart c then [(⟨false, cs⟩ : Position)] else []).flatMap _ = []
      rw [if_neg hc, List.flatMap_nil]

/-- An identifier in front of a dot is read as a whole, since no part of it is a dot. -/
theorem ends_dotted (p : Position) :
    dottedRegex.ends p = match readIdentifier? p.rest with
      | some (_, '.' :: rest) => [⟨false, rest⟩]
      | _ => [] := by
  have hends := ends_identifier p
  show (identifierRegex.ends p).flatMap (Regex.char (· == '.')).ends = _
  cases hread : readIdentifier? p.rest with
  | none =>
    rw [hread] at hends
    rw [hends]
    rfl
  | some read =>
    obtain ⟨name, rest⟩ := read
    rw [hread] at hends
    obtain ⟨others, hends, hothers⟩ := hends
    -- A shorter match of the identifier is no use: a part of the identifier comes next, not the dot.
    have hnone : others.flatMap (Regex.char (· == '.')).ends = [] := by
      rw [List.flatMap_eq_nil_iff]
      rintro ⟨inside, text⟩ hq
      obtain ⟨c, behind, rfl, hpart⟩ := hothers _ hq
      have hdot : c ≠ '.' := by
        rintro rfl
        exact absurd hpart (by decide)
      exact ends_char_of_eq_false (beq_eq_false_iff_ne.mpr hdot) inside behind
    rw [hends, List.flatMap_cons, hnone, List.append_nil]
    cases rest with
    | nil => rfl
    | cons c rest =>
      by_cases hc : c = '.'
      · subst hc
        rfl
      · have hother : (Regex.char (· == '.')).ends ⟨false, c :: rest⟩ = [] :=
          ends_char_of_eq_false (beq_eq_false_iff_ne.mpr hc) false rest
        rw [hother]
        split
        · rename_i heq
          cases heq
          exact absurd rfl hc
        · rfl

/-- A column is an identifier as a whole, or a `*`. -/
theorem head?_ends_column (p : Position) :
    (columnRegex.ends p).head? = (afterColumn? p.rest).map (⟨false, ·⟩) := by
  obtain ⟨atStart, cs⟩ := p
  have hends := ends_identifier ⟨atStart, cs⟩
  show (identifierRegex.ends ⟨atStart, cs⟩ ++
    (Regex.char (· == '*')).ends ⟨atStart, cs⟩).head? = _
  -- `*` starts no identifier, so at most one of the two alternatives matches.
  by_cases hstar : cs.head? = some '*'
  · obtain ⟨rest, rfl⟩ := List.head?_eq_some_iff.mp hstar
    have hnone : identifierRegex.ends ⟨atStart, '*' :: rest⟩ = [] := hends
    rw [hnone]
    rfl
  · rw [afterColumn?_of_head? hstar]
    cases hread : readIdentifier? cs with
    | none =>
      rw [hread] at hends
      have hnone : (Regex.char (· == '*')).ends ⟨atStart, cs⟩ = [] := by
        cases cs with
        | nil => rfl
        | cons c rest =>
          have hc : c ≠ '*' := by
            rintro rfl
            exact hstar rfl
          exact ends_char_of_eq_false (beq_eq_false_iff_ne.mpr hc) atStart rest
      rw [hends, hnone]
      rfl
    | some read =>
      rw [hread] at hends
      obtain ⟨others, hends, -⟩ := hends
      rw [hends]
      rfl

/-- Names as they stand in front of a column, each with a dot behind it. -/
def dotted (names : List (List Char)) : List Char :=
  names.flatMap (· ++ ['.'])

/-- Where the qualifier and the column behind it end in the preferred match of the two. -/
def qualifiedEnds? (p : Position) : Option (Position × Position) :=
  (qualifierRegex.ends p).findSome? fun m => (columnRegex.ends m).head?.map fun q => (m, q)

/-- Behind the first identifier and its dot there is a qualifier again, or nothing more of it. -/
theorem ends_qualifier {p q : Position} (h : dottedRegex.ends p = [q]) :
    qualifierRegex.ends p = qualifierRegex.ends q ++ [q] := by
  have hfirst : qualifierRegex.ends p = dottedRegex.star.ends q := by
    show (dottedRegex.ends p).flatMap dottedRegex.star.ends = _
    rw [h, List.flatMap_singleton]
  have hrest : qualifierRegex.ends q = (dottedRegex.ends q).flatMap dottedRegex.star.ends := rfl
  rw [hfirst, hrest]
  have hends := ends_dotted q
  -- Whether another dotted name follows decides between one more repetition and none.
  split at hends
  · rename_i name rest hread
    have hlength := length_lt_of_readIdentifier? hread
    rw [List.length_cons] at hlength
    have hshorter : rest.length < q.rest.length := by omega
    rw [ends_star_of_ends hends hshorter, hends, List.flatMap_singleton]
  · rw [ends_star_of_nil hends, hends]
    rfl

/-- The preferred match has as many identifiers in front of the column as there can be. -/
theorem qualifiedEnds?_of_ends {p q : Position} (h : dottedRegex.ends p = [q]) :
    qualifiedEnds? p = (qualifiedEnds? q).or ((columnRegex.ends q).head?.map fun e => (q, e)) := by
  rw [qualifiedEnds?, ends_qualifier h, List.findSome?_append, List.findSome?_singleton]
  rfl

/-- The scanner of qualified columns reads what the preferred match takes up. -/
theorem qualifiedEnds?_eq (atStart : Bool) (cs : List Char) :
    match readQualified? cs with
    | some (names, after) => ∃ rest, cs = dotted names ++ rest ∧
        qualifiedEnds? ⟨atStart, cs⟩ = some (⟨false, rest⟩, ⟨false, after⟩)
    | none => qualifiedEnds? ⟨atStart, cs⟩ = none := by
  fun_induction readQualified? cs generalizing atStart with
  | case1 cs name rest hread names after hrest ih =>
    have hends : dottedRegex.ends ⟨atStart, cs⟩ = [⟨false, rest⟩] := by
      rw [ends_dotted, hread]
      rfl
    -- There is a qualified column behind the dot as well, and it is preferred.
    have hmore := ih false
    rw [hrest] at hmore
    obtain ⟨column, hcolumn, hmatch⟩ := hmore
    refine ⟨column, ?_, ?_⟩
    · rw [eq_append_of_readIdentifier? hread, hcolumn]
      simp [dotted]
    · rw [qualifiedEnds?_of_ends hends, hmatch]
      rfl
  | case2 cs name rest hread hrest ih =>
    have hends : dottedRegex.ends ⟨atStart, cs⟩ = [⟨false, rest⟩] := by
      rw [ends_dotted, hread]
      rfl
    have hmore := ih false
    rw [hrest] at hmore
    -- This is the last dot, and the column has to stand behind it.
    have hmatch : qualifiedEnds? ⟨atStart, cs⟩
        = (afterColumn? rest).map fun after => (⟨false, rest⟩, ⟨false, after⟩) := by
      rw [qualifiedEnds?_of_ends hends, hmore, head?_ends_column, Option.map_map]
      rfl
    cases hafter : afterColumn? rest with
    | none =>
      rw [hafter] at hmatch
      exact hmatch
    | some after =>
      rw [hafter] at hmatch
      refine ⟨rest, ?_, hmatch⟩
      rw [eq_append_of_readIdentifier? hread]
      simp [dotted]
  | case3 cs hnone =>
    have hends : dottedRegex.ends ⟨atStart, cs⟩ = [] := by
      rw [ends_dotted]
      split
      · rename_i name rest hread
        exact absurd hread (hnone name rest)
      · rfl
    show ((dottedRegex.ends ⟨atStart, cs⟩).flatMap dottedRegex.star.ends).findSome? _ = none
    rw [hends]
    rfl

/-- Two captures of one search can be read off the pair of them. -/
theorem findSome?_map_pair {α β γ : Type} (f : α → Option β) (g : α → β → γ) (xs : List α) :
    (xs.findSome? fun a => (f a).map (g a))
      = (xs.findSome? fun a => (f a).map fun b => (a, b)).map fun x => g x.1 x.2 := by
  induction xs with
  | nil => rfl
  | cons x xs ih =>
    rw [List.findSome?_cons, List.findSome?_cons, ih]
    cases f x <;> rfl

/-- The preferred match of a qualified column ends where the scanner of one stops. -/
theorem head?_ends_afterBoundary (q : Position) :
    ((Regex.seq qualifierRegex columnRegex).ends q).head?
      = (readQualified? q.rest).map fun (_, after) => ⟨false, after⟩ := by
  have hsnd : ((Regex.seq qualifierRegex columnRegex).ends q).head?
      = (qualifiedEnds? q).map Prod.snd := by
    have hpair := findSome?_map_pair (fun m => (columnRegex.ends m).head?) (fun _ e => e)
      (qualifierRegex.ends q)
    show ((qualifierRegex.ends q).flatMap columnRegex.ends).head? = _
    rw [List.head?_flatMap, qualifiedEnds?, ← hpair]
    simp
  have hends := qualifiedEnds?_eq q.atStart q.rest
  rw [hsnd]
  split at hends
  · rename_i names after hread
    obtain ⟨rest, -, hmatch⟩ := hends
    rw [hmatch, hread]
    rfl
  · rename_i hread
    rw [hends, hread]
    rfl

/-- The preferred match captures the names that the scanner has read, each with its dot. -/
theorem captured?_afterBoundary (q : Position) :
    ((qualifierRegex.ends q).findSome? fun m => (columnRegex.ends m).head?.map fun _ =>
        q.rest.take (q.rest.length - m.rest.length))
      = (readQualified? q.rest).map fun (names, _) => dotted names := by
  have hends := qualifiedEnds?_eq q.atStart q.rest
  rw [findSome?_map_pair]
  show (qualifiedEnds? q).map _ = _
  split at hends
  · rename_i names after hread
    obtain ⟨rest, hrest, hmatch⟩ := hends
    rw [hmatch, hread]
    simp [hrest]
  · rename_i hread
    rw [hends, hread]
    rfl

/-- The column that is read from a position: at the start of the text the one that stands there, or
else the one behind a character that does not bind to it. -/
def readBehindBoundary? (p : Position) : Option (List (List Char) × List Char) :=
  (if p.atStart then readQualified? p.rest else none).or (match p.rest with
    | [] => none
    | c :: rest => if bindsBefore c then none else readQualified? rest)

/-- Both kinds of boundary are tried in this order. -/
theorem findSome?_boundary {β : Type} {f : Position → Option β}
    {g : List (List Char) × List Char → β} (hfg : ∀ q, f q = (readQualified? q.rest).map g)
    (p : Position) :
    (boundaryRegex.ends p).findSome? f = (readBehindBoundary? p).map g := by
  obtain ⟨atStart, cs⟩ := p
  -- The start of the text is tried before a character in front of the column.
  have hstart : (Regex.start.ends ⟨atStart, cs⟩).findSome? f
      = (if atStart then readQualified? cs else none).map g := by
    cases atStart <;> simp [ends, hfg]
  have hchar : ((Regex.char fun c => !bindsBefore c).ends ⟨atStart, cs⟩).findSome? f
      = (match cs with
        | [] => none
        | c :: rest => if bindsBefore c then none else readQualified? rest).map g := by
    cases cs with
    | nil => rfl
    | cons c rest =>
      rw [ends_char_cons]
      by_cases hbinds : bindsBefore c = true <;> simp [hbinds, hfg]
  show (Regex.start.ends ⟨atStart, cs⟩ ++ (Regex.char fun c => !bindsBefore c).ends ⟨atStart, cs⟩
    ).findSome? f = _
  rw [List.findSome?_append, hstart, hchar, ← Option.map_or]
  rfl

/-- What is read is a qualified column at the position or right behind it. -/
theorem exists_of_readBehindBoundary? {p : Position} {column : List (List Char) × List Char}
    (h : readBehindBoundary? p = some column) :
    ∃ cs, cs.length ≤ p.rest.length ∧ readQualified? cs = some column := by
  obtain ⟨atStart, cs⟩ := p
  rw [readBehindBoundary?, Option.or_eq_some_iff] at h
  rcases h with hstart | ⟨-, hbehind⟩
  · split at hstart
    · exact ⟨cs, le_rfl, hstart⟩
    · cases hstart
  · cases cs with
    | nil => cases hbehind
    | cons c rest =>
      dsimp only at hbehind
      split at hbehind
      · cases hbehind
      · exact ⟨rest, Nat.le_succ _, hbehind⟩

/-- A qualified column takes up a character, so the search goes on behind it. -/
theorem length_lt_of_readBehindBoundary? {p : Position} {names : List (List Char)}
    {after : List Char} (h : readBehindBoundary? p = some (names, after)) :
    after.length < p.rest.length := by
  obtain ⟨cs, hle, hread⟩ := exists_of_readBehindBoundary? h
  have hlt := length_lt_of_readQualified? hread
  omega

/-- The search finds what the scanner reads behind a boundary. -/
theorem next?_qualified (p : Position) :
    qualifiedRegex.next? p = (readBehindBoundary? p).map fun (_, after) => ⟨false, after⟩ := by
  apply next?_eq_of_head?
  · show ((boundaryRegex.ends p).flatMap (Regex.seq qualifierRegex columnRegex).ends).head? = _
    rw [List.head?_flatMap]
    exact findSome?_boundary head?_ends_afterBoundary p
  · intro q hq
    obtain ⟨⟨names, after⟩, hread, rfl⟩ := Option.map_eq_some_iff.mp hq
    exact length_lt_of_readBehindBoundary? hread

/-- What the search captures are the names that the scanner reads behind a boundary. -/
theorem captured?_qualified (p : Position) :
    captured? boundaryRegex qualifierRegex columnRegex p
      = (readBehindBoundary? p).map fun (names, _) => dotted names :=
  findSome?_boundary captured?_afterBoundary p

/-! ### Names -/

/-- An identifier does not end in a dot, so taking dots off its end takes nothing of it. -/
theorem exists_last_of_readIdentifier? {cs name rest : List Char}
    (h : readIdentifier? cs = some (name, rest)) :
    ∃ front last, name = front ++ [last] ∧ last ≠ '.' := by
  have hname := isIdentifier_of_readIdentifier? h
  have hdot := hname.notMem (c := '.') (by decide)
  obtain ⟨c, tail, hchars, -⟩ := hname.exists_chars
  rw [String.toList_ofList] at hdot hchars
  have hne : name ≠ [] := hchars ▸ List.cons_ne_nil c tail
  exact ⟨name.dropLast, name.getLast hne, (List.dropLast_append_getLast hne).symm,
    fun hlast => hdot (hlast ▸ List.getLast_mem hne)⟩

/-- Names that are read end with a character that is no dot, and with one dot more in front of a
column. -/
theorem exists_last_of_readQualified? {cs after : List Char} {names : List (List Char)}
    (h : readQualified? cs = some (names, after)) :
    ∃ front last, ['.'].intercalate names = front ++ [last] ∧ last ≠ '.' ∧
      dotted names = front ++ [last] ++ ['.'] := by
  fun_induction readQualified? cs generalizing names after with
  | case1 cs name rest hread names' after' hrest ih =>
    cases h
    obtain ⟨front, last, hnames, hlast, hdotted⟩ := ih hrest
    refine ⟨name ++ '.' :: front, last, ?_, hlast, ?_⟩
    · cases names' with
      | nil => simp at hnames
      | cons next names' =>
        rw [List.intercalate_cons_cons, hnames]
        simp
    · rw [dotted] at hdotted
      rw [dotted, List.flatMap_cons, hdotted]
      simp
  | case2 cs name rest hread hrest ih =>
    obtain ⟨after', -, hnames⟩ := Option.map_eq_some_iff.mp h
    cases hnames
    obtain ⟨front, last, rfl, hlast⟩ := exists_last_of_readIdentifier? hread
    exact ⟨front, last, List.intercalate_singleton, hlast, List.flatMap_singleton _ _⟩
  | case3 cs hnone => cases h

/-- Without the dots at its end, what stands in front of a column is its qualifier. -/
theorem rdropWhile_dotted {names : List (List Char)} {cs after : List Char}
    (h : readQualified? cs = some (names, after)) :
    (dotted names).rdropWhile (· == '.') = ['.'].intercalate names := by
  obtain ⟨front, last, hnames, hlast, hdotted⟩ := exists_last_of_readQualified? h
  rw [hdotted, hnames, List.rdropWhile_concat_pos _ _ _ rfl,
    List.rdropWhile_concat_neg _ _ _ (by simpa using hlast)]

/-- The scan of a text goes from one column to the next, or passes over a character. -/
theorem qualifiers_next (atStart : Bool) (cs : List Char) :
    qualifiers atStart cs = match readBehindBoundary? ⟨atStart, cs⟩ with
      | some (names, after) => ['.'].intercalate names :: qualifiers false after
      | none => qualifiers false cs.tail := by
        -- Nothing is read at the start, so the boundary can only be the next character.
  cases hread : if atStart then readQualified? cs else none with
  | some column =>
    obtain ⟨names, after⟩ := column
    have hboundary : readBehindBoundary? ⟨atStart, cs⟩ = some (names, after) := by
      show Option.or (if atStart then readQualified? cs else none) _ = _
      rw [hread]
      rfl
    cases atStart with
    | false => cases hread
    | true => rw [hboundary, qualifiers_start hread]
  | none =>
    cases cs with
    | nil =>
      have hboundary : readBehindBoundary? ⟨atStart, []⟩ = none := by
        show Option.or (if atStart then readQualified? [] else none) none = none
        rw [hread]
        rfl
      rw [hboundary, qualifiers_nil, List.tail_nil, qualifiers_nil]
    | cons c rest =>
      have hboundary : readBehindBoundary? ⟨atStart, c :: rest⟩
          = if bindsBefore c then none else readQualified? rest := by
        show Option.or (if atStart then readQualified? (c :: rest) else none) _ = _
        rw [hread]
        rfl
      rw [hboundary, qualifiers_step hread]
      rfl

/-- What a match of a qualified column has in front of its column, without the last dot. -/
def qualifierOf? : Char ⊕ Position → Option (List Char) :=
  Sum.elim (fun _ => none) fun p =>
    (captured? boundaryRegex qualifierRegex columnRegex p).map (·.rdropWhile (· == '.'))

/-- The qualifiers of a text are those of the matches of a qualified column. The induction is on the
length, since a match uses up many characters at once. -/
theorem qualifiers_eq (atStart : Bool) (cs : List Char) :
    qualifiers atStart cs = (qualifiedRegex.pieces ⟨atStart, cs⟩).filterMap qualifierOf? := by
  -- A column may take up any number of characters, so the induction is on the length of the text.
  induction hlength : cs.length using Nat.strongRecOn generalizing atStart cs with
  | ind n ih =>
    have hnext := next?_qualified ⟨atStart, cs⟩
    rw [qualifiers_next]
    cases hread : readBehindBoundary? ⟨atStart, cs⟩ with
    | some column =>
      obtain ⟨names, after⟩ := column
      have hlt : after.length < n := hlength ▸ length_lt_of_readBehindBoundary? hread
      have hqualifier : qualifierOf? (.inr ⟨atStart, cs⟩) = some (['.'].intercalate names) := by
        obtain ⟨cs', -, hqualified⟩ := exists_of_readBehindBoundary? hread
        rw [qualifierOf?, Sum.elim_inr, captured?_qualified, hread]
        exact congrArg some (rdropWhile_dotted hqualified)
      rw [hread] at hnext
      rw [pieces_of_some hnext, List.filterMap_cons_some hqualifier]
      exact congrArg (_ :: ·) (ih _ hlt false after rfl)
    | none =>
      rw [hread] at hnext
      cases cs with
      | nil =>
        rw [pieces_nil hnext]
        exact qualifiers_nil false
      | cons c rest =>
        have hlt : rest.length < n := by
          rw [← hlength, List.length_cons]
          omega
        rw [pieces_cons hnext, List.filterMap_cons_none rfl]
        exact ih _ hlt false rest rfl

/-! ### Wildcards -/

/-- A `*` in front of the end of the text, a blank, `)` or `,`. -/
def closedStarRegex : Regex :=
  .seq (.char (· == '*')) (.alt .finish (.char fun c => isBlank c || c == ')' || c == ','))

/-- A `*` that stands alone: behind the start of the text, a blank, `(` or `,` as well. -/
def wildcardRegex : Regex :=
  .seq (.alt .start (.char fun c => isBlank c || c == '(' || c == ',')) closedStarRegex

/-- Whether a text starts with a `*` that nothing binds to from behind. -/
def startsClosedStar : List Char → Bool
  | '*' :: cs => hasWildcard.closes cs
  | _ => false

/-- A star with something behind it that closes it takes up both, or the star alone at the end of
the text. -/
theorem ends_closedStar (p : Position) :
    closedStarRegex.ends p
      = if startsClosedStar p.rest then [⟨false, p.rest.drop 2⟩] else [] := by
  obtain ⟨atStart, cs⟩ := p
  cases cs with
  | nil => rfl
  | cons c rest =>
    by_cases hc : c = '*'
    · subst hc
      cases rest with
      | nil => rfl
      | cons d rest =>
        show [(⟨false, d :: rest⟩ : Position)].flatMap _ = _
        rw [List.flatMap_singleton]
        rfl
    · have hstarts : startsClosedStar (c :: rest) = false := by
        rw [startsClosedStar]
        rintro cs ⟨⟩
        exact hc rfl
      have hends : (Regex.char (· == '*')).ends ⟨atStart, c :: rest⟩ = [] :=
        ends_char_of_eq_false (beq_eq_false_iff_ne.mpr hc) atStart rest
      show ((Regex.char (· == '*')).ends ⟨atStart, c :: rest⟩).flatMap _ = _
      rw [hends, hstarts]
      rfl

/-- A wildcard is found at a position if the position is the start of the text, or else behind a
character that opens one. -/
theorem isSome_next?_wildcard (atStart : Bool) (c : Char) (cs : List Char) :
    (wildcardRegex.next? ⟨atStart, c :: cs⟩).isSome
      = (atStart && startsClosedStar (c :: cs) ||
        (isBlank c || c == '(' || c == ',') && startsClosedStar cs) := by
  have hstart : ((Regex.start.ends ⟨atStart, c :: cs⟩).flatMap closedStarRegex.ends).head?
      = if atStart && startsClosedStar (c :: cs) then some ⟨false, cs.drop 1⟩ else none := by
    cases atStart with
    | false => rfl
    | true =>
      show ([(⟨true, c :: cs⟩ : Position)].flatMap closedStarRegex.ends).head? = _
      rw [List.flatMap_singleton, ends_closedStar, Bool.true_and]
      split <;> rfl
  have hopened : (((Regex.char fun c => isBlank c || c == '(' || c == ',').ends
      ⟨atStart, c :: cs⟩).flatMap closedStarRegex.ends).head?
      = if (isBlank c || c == '(' || c == ',') && startsClosedStar cs then
          some ⟨false, cs.drop 2⟩ else none := by
    rw [ends_char_cons]
    cases isBlank c || c == '(' || c == ',' with
    | false => rfl
    | true =>
      show ([(⟨false, cs⟩ : Position)].flatMap closedStarRegex.ends).head? = _
      rw [List.flatMap_singleton, ends_closedStar, Bool.true_and]
      split <;> rfl
  have hhead : (wildcardRegex.ends ⟨atStart, c :: cs⟩).head?
      = (if atStart && startsClosedStar (c :: cs) then some ⟨false, cs.drop 1⟩ else none).or
        (if (isBlank c || c == '(' || c == ',') && startsClosedStar cs then
          some ⟨false, cs.drop 2⟩ else none) := by
    rw [← hstart, ← hopened, ← List.head?_append, ← List.flatMap_append]
    rfl
  -- A match counts if it takes up a character. It does either way: the star alone takes up one.
  rw [next?_eq_of_head? hhead]
  · cases atStart && startsClosedStar (c :: cs) <;>
      cases (isBlank c || c == '(' || c == ',') && startsClosedStar cs <;> rfl
  · intro q hq
    have hdrop : ∃ n, q.rest = cs.drop n := by
      rw [Option.or_eq_some_iff] at hq
      rcases hq with hq | ⟨-, hq⟩
      · split at hq <;> cases hq
        exact ⟨1, rfl⟩
      · split at hq <;> cases hq
        exact ⟨2, rfl⟩
    obtain ⟨n, hdrop⟩ := hdrop
    show q.rest.length < cs.length + 1
    rw [hdrop, List.length_drop]
    omega

/-- A step of the scan for wildcards, with the star and what closes it taken together. -/
theorem hasWildcard_cons_eq (opened : Bool) (c : Char) (cs : List Char) :
    hasWildcard opened (c :: cs)
      = (opened && startsClosedStar (c :: cs) ||
        hasWildcard (isBlank c || c == '(' || c == ',') cs) := by
  have hstar : (c == '*' && hasWildcard.closes cs) = startsClosedStar (c :: cs) := by
    by_cases hc : c = '*'
    · subst hc
      rfl
    · have hstarts : startsClosedStar (c :: cs) = false := by
        rw [startsClosedStar]
        rintro cs ⟨⟩
        exact hc rfl
      rw [hstarts, beq_eq_false_iff_ne.mpr hc, Bool.false_and]
  rw [hasWildcard, Bool.and_assoc, hstar]

/-- Inside of a text the scanner of wildcards finds one at once, or the regular expression finds one
later. -/
theorem hasWildcard_inside (opened : Bool) (cs : List Char) :
    hasWildcard opened cs
      = (opened && startsClosedStar cs || wildcardRegex.isFound ⟨false, cs⟩) := by
  induction cs generalizing opened with
  | nil =>
    rw [isFound_nil rfl]
    cases opened <;> rfl
  | cons c cs ih =>
    rw [hasWildcard_cons_eq, ih, isFound_cons, isSome_next?_wildcard, Bool.false_and, Bool.false_or]

/-- The scan finds a wildcard exactly where the regular expression is found. -/
theorem hasWildcard_eq (cs : List Char) :
    hasWildcard true cs = wildcardRegex.isFound ⟨true, cs⟩ := by
  cases cs with
  | nil => rw [isFound_nil rfl, hasWildcard]
  | cons c cs =>
    rw [hasWildcard_cons_eq, hasWildcard_inside, isFound_cons, isSome_next?_wildcard, Bool.true_and]
    exact (Bool.or_assoc _ _ _).symm

/-! ### Tables -/

/-- The tables of an expression are the qualifiers in the matches of a qualified column, in the text
with a blank in the place of each quoted text. Without any, there must be a match of a wildcard in
this text without the blanks at its ends. -/
theorem tableNames_eq_matching (expression : String) :
    tableNames expression =
      let scanned := (quotedTextRegex.pieces ⟨true, expression.toList⟩).map
        (Sum.elim id fun _ => ' ')
      let tables := (((qualifiedRegex.pieces ⟨true, scanned⟩).filterMap qualifierOf?).map
        String.ofList).eraseDups
      if tables.isEmpty && !wildcardRegex.isFound ⟨true, trim scanned⟩ then
        .error (.malformedColumn expression)
      else .ok tables := by
  dsimp only
  rw [← withoutQuoted_eq, ← qualifiers_eq, ← hasWildcard_eq, ← distinct_eq]
  rfl

end Column

end SqlSelect
