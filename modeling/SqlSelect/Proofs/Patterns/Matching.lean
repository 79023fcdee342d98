import Mathlib.Data.List.Infix
import SqlSelect.Criterion.Pattern

/-!
# `SqlSelect.Proofs.Patterns.Matching`: what patterns match

There are two languages of patterns. A pattern as it is given has four wildcards, and a backslash in
front of a wildcard makes it an ordinary character. In the form of SQL there are two wildcards, and
a backslash makes an ordinary character of whatever stands behind it. With nothing behind it the
pattern is no pattern of SQL, and no text matches. `accepts` and `sqlAccepts` read a pattern of
either language from the left and say of every text whether it matches.

All that is read here takes a backslash together with the character behind it, and
`readingInduction` is the induction that goes with that.

* `LikePattern.sqlAccepts_char`, `LikePattern.accepts_char`, `LikePattern.escapesWildcards_char`:
  characters other than the backslash.
* `LikePattern.hasOpenWildcard_pair`, `LikePattern.hasOpenWildcard_char`: where a pattern has a
  wildcard that is not escaped.
* `LikePattern.oneChar_eq_true_iff`: texts that start with a character.
-/

set_option autoImplicit false

namespace SqlSelect.LikePattern

/-- The wildcards of a pattern as it is given. -/
def isWildcard (c : Char) : Bool :=
  c == '*' || c == '?' || c == '%' || c == '_'

/-- The wildcards of the two languages, one by one. -/
theorem isWildcard_iff {c : Char} :
    isWildcard c = true ↔ c = '*' ∨ c = '?' ∨ c = '%' ∨ c = '_' := by
  simp only [isWildcard, Bool.or_eq_true, beq_iff_eq, or_assoc]

/-- An ordinary character is none of them. -/
theorem isWildcard_eq_false_iff {c : Char} :
    isWildcard c = false ↔ c ≠ '*' ∧ c ≠ '?' ∧ c ≠ '%' ∧ c ≠ '_' := by
  rw [Bool.eq_false_iff, Ne, isWildcard_iff]
  simp only [not_or, ne_eq]

/-- The escape character is no wildcard. -/
theorem ne_backslash_of_isWildcard {c : Char} (h : isWildcard c = true) : c ≠ '\\' := by
  rintro rfl
  exact absurd h (by decide)

/-! ### The parts of a pattern -/

/-- Any characters, and behind them a text that matches the rest of the pattern. -/
def anyText (rest : List Char → Bool) (text : List Char) : Bool :=
  text.tails.any rest

/-- Any one character, and behind it a text that matches the rest of the pattern. -/
def anyChar (rest : List Char → Bool) : List Char → Bool
  | [] => false
  | _ :: text => rest text

/-- This character, and behind it a text that matches the rest of the pattern. -/
def oneChar (c : Char) (rest : List Char → Bool) : List Char → Bool
  | [] => false
  | d :: text => d == c && rest text

/-- A text that starts with a character has it in front of something that goes on matching. -/
theorem oneChar_eq_true_iff {c : Char} {rest : List Char → Bool} {text : List Char} :
    oneChar c rest text = true ↔ ∃ behind, text = c :: behind ∧ rest behind = true := by
  cases text with
  | nil => simp [oneChar]
  | cons d text => simp [oneChar]

/-! ### The two languages -/

/-- Whether a text matches a pattern of SQL with the backslash as escape character. -/
def sqlAccepts : List Char → List Char → Bool
  | [] => List.isEmpty
  -- The escape character at the end is an error in SQL, so no text matches.
  | ['\\'] => fun _ => false
  | '\\' :: c :: pattern => oneChar c (sqlAccepts pattern)
  | c :: pattern =>
    if c = '%' then anyText (sqlAccepts pattern)
    else if c = '_' then anyChar (sqlAccepts pattern)
    else oneChar c (sqlAccepts pattern)

/-- Whether a text matches a pattern as it is given. -/
def accepts : List Char → List Char → Bool
  | [] => List.isEmpty
  | ['\\'] => oneChar '\\' List.isEmpty
  | '\\' :: c :: pattern =>
    -- A backslash that escapes nothing is a character like any other.
    if isWildcard c then oneChar c (accepts pattern)
    else oneChar '\\' (oneChar c (accepts pattern))
  | c :: pattern =>
    if c = '*' ∨ c = '%' then anyText (accepts pattern)
    else if c = '?' ∨ c = '_' then anyChar (accepts pattern)
    else oneChar c (accepts pattern)

/-- Whether every backslash, read from the left, escapes a wildcard. -/
def escapesWildcards : List Char → Bool
  | [] => true
  | ['\\'] => false
  | '\\' :: c :: pattern => isWildcard c && escapesWildcards pattern
  | _ :: pattern => escapesWildcards pattern

/-- Whether there is a wildcard without a backslash in front of it. -/
def HasOpenWildcard (pattern : List Char) : Prop :=
  ∃ before c after, pattern = before ++ c :: after ∧ isWildcard c = true ∧
    before.getLast? ≠ some '\\'

/-! ### Reading from the left -/

/-- Patterns are read from the left, and a backslash is read with the character behind it. -/
@[elab_as_elim]
theorem readingInduction {motive : List Char → Prop} (nil : motive []) (final : motive ['\\'])
    (pair : ∀ c pattern, motive pattern → motive ('\\' :: c :: pattern))
    (char : ∀ c pattern, c ≠ '\\' → motive pattern → motive (c :: pattern)) :
    ∀ pattern, motive pattern
  | [] => nil
  | [c] =>
    if hc : c = '\\' then hc ▸ final else char c [] hc nil
  | c :: d :: pattern =>
    if hc : c = '\\' then hc ▸ pair d pattern (readingInduction nil final pair char pattern)
    else char c (d :: pattern) hc (readingInduction nil final pair char (d :: pattern))

section Char

variable {c : Char}

/-- A character other than the backslash is translated by itself, whatever follows it. -/
theorem ofChars_char (hc : c ≠ '\\') (cs : List Char) : ofChars (c :: cs)
    = if c = '*' then wildcard '%' (ofChars cs)
      else if c = '?' then wildcard '_' (ofChars cs)
      else if c = '%' ∨ c = '_' then wildcard c (ofChars cs)
      else prepend [c] [c] (ofChars cs) := by
  rw [ofChars.eq_def]
  split <;> simp_all

/-- And so it is read in the form of SQL. -/
theorem sqlAccepts_char (hc : c ≠ '\\') (pattern : List Char) : sqlAccepts (c :: pattern)
    = if c = '%' then anyText (sqlAccepts pattern)
      else if c = '_' then anyChar (sqlAccepts pattern)
      else oneChar c (sqlAccepts pattern) := by
  rw [sqlAccepts.eq_def]
  split <;> simp_all

/-- And in the pattern as it is given. -/
theorem accepts_char (hc : c ≠ '\\') (pattern : List Char) : accepts (c :: pattern)
    = if c = '*' ∨ c = '%' then anyText (accepts pattern)
      else if c = '?' ∨ c = '_' then anyChar (accepts pattern)
      else oneChar c (accepts pattern) := by
  rw [accepts.eq_def]
  split <;> simp_all

/-- Only a backslash can escape what it should not. -/
theorem escapesWildcards_char (hc : c ≠ '\\') (pattern : List Char) :
    escapesWildcards (c :: pattern) = escapesWildcards pattern := by
  rw [escapesWildcards.eq_def]
  split <;> simp_all

/-- Whether a backslash stands at the end does not depend on another character in front. -/
theorem getLast?_cons_ne_iff (hc : c ≠ '\\') (before : List Char) :
    (c :: before).getLast? ≠ some '\\' ↔ before.getLast? ≠ some '\\' := by
  rw [List.getLast?_cons]
  cases before.getLast? with
  | none => simpa using hc
  | some d => simp

/-- In front of the rest of a pattern, a character that is no backslash escapes nothing. -/
theorem hasOpenWildcard_char (hc : c ≠ '\\') (pattern : List Char) :
    HasOpenWildcard (c :: pattern) ↔ isWildcard c = true ∨ HasOpenWildcard pattern := by
  constructor
  · rintro ⟨before, d, after, heq, hwild, hopen⟩
    cases before with
    | nil =>
      obtain ⟨rfl, -⟩ := List.cons.inj heq
      exact .inl hwild
    | cons first before =>
      obtain ⟨rfl, rfl⟩ := List.cons.inj heq
      exact .inr ⟨before, d, after, rfl, hwild, (getLast?_cons_ne_iff hc before).mp hopen⟩
  · rintro (hwild | ⟨before, d, after, rfl, hwild, hopen⟩)
    · exact ⟨[], c, pattern, rfl, hwild, by simp⟩
    · exact ⟨c :: before, d, after, rfl, hwild, (getLast?_cons_ne_iff hc before).mpr hopen⟩

/-- What is escaped is not open, and it escapes nothing itself. -/
theorem hasOpenWildcard_pair (hc : c ≠ '\\') (pattern : List Char) :
    HasOpenWildcard ('\\' :: c :: pattern) ↔ HasOpenWildcard pattern := by
  constructor
  · rintro ⟨before, d, after, heq, hwild, hopen⟩
    cases before with
    | nil =>
      obtain ⟨rfl, -⟩ := List.cons.inj heq
      exact absurd hwild (by decide)
    | cons first before =>
      obtain ⟨rfl, hrest⟩ := List.cons.inj heq
      cases before with
      | nil =>
        -- The wildcard would be the one that is escaped.
        exact absurd rfl hopen
      | cons second before =>
        obtain ⟨rfl, rfl⟩ := List.cons.inj hrest
        refine ⟨before, d, after, rfl, hwild, ?_⟩
        rwa [List.getLast?_cons_cons, getLast?_cons_ne_iff hc] at hopen
  · rintro ⟨before, d, after, rfl, hwild, hopen⟩
    refine ⟨'\\' :: c :: before, d, after, rfl, hwild, ?_⟩
    rwa [List.getLast?_cons_cons, getLast?_cons_ne_iff hc]

end Char

end SqlSelect.LikePattern
