import SqlSelect.Column.Table
import SqlSelect.Dialect.Basic
import SqlSelect.Proofs.Except
import SqlSelect.Proofs.Literals.Values

/-!
# `SqlSelect.Proofs.Columns.QuotedText`: quoted text inside an expression

`Column.tableNames` looks for columns in the expression with a blank in the place of each quoted
text. A text with an even number of quotes ends outside of quoted text, so what stands behind it is
scanned as if nothing stood in front. What is between the quotes of a literal is thereby data: it
decides neither which tables are found nor whether there are any.

* `Column.afterQuoted?_append`: a quoted text that is closed ends in the same place whatever stands
  behind it.
* `Column.withoutQuoted_append`: the scan of two texts, one behind the other.
* `Column.withoutQuoted_literal`: the scan of a text with a literal in it.
* `Column.tableNames_withLiteral`: expressions that differ in a literal only.
-/

set_option autoImplicit false

namespace SqlSelect.Column

open Text

variable {c : Char} {cs after behind : List Char}

/-! ### One quoted text -/

/-- Two quotes do not close a quoted text, unless nothing else does. -/
theorem afterQuoted?_twice (h : afterQuoted? cs = some after) :
    afterQuoted? ('\'' :: '\'' :: cs) = some after := by
  rw [afterQuoted?, h]

/-- A quote in front of another character closes a quoted text, and so does one at the end. -/
theorem afterQuoted?_close (h : cs.head? ≠ some '\'') : afterQuoted? ('\'' :: cs) = some cs := by
  rw [afterQuoted?]
  intro cs' hcs
  exact h (by rw [hcs, List.head?_cons])

/-- A character that is no quote is part of the quoted text. -/
theorem afterQuoted?_of_ne (h : c ≠ '\'') : afterQuoted? (c :: cs) = afterQuoted? cs := by
  rw [afterQuoted?]
  · intro cs' hc
    exact absurd hc h
  · exact h

/-- Where a quoted text is open and an odd number of quotes follows, one of them closes it. It does
so whatever stands behind all these characters, unless that is a quote that could join the last of
them. An even number of quotes is left behind the closing one. -/
theorem afterQuoted?_append (h : cs.count '\'' % 2 = 1) :
    ∃ after, afterQuoted? cs = some after ∧ after.count '\'' % 2 = 0 ∧
      ∀ behind : List Char, behind.head? ≠ some '\'' →
        afterQuoted? (cs ++ behind) = some (after ++ behind) := by
  fun_induction afterQuoted? cs with
  | case1 => simp at h
  | case2 cs after hafter ih =>
    have hodd : cs.count '\'' % 2 = 1 := by
      rw [List.count_cons_self, List.count_cons_self] at h
      omega
    obtain ⟨after', hafter', heven, hbehind⟩ := ih hodd
    rw [hafter] at hafter'
    cases hafter'
    refine ⟨after, rfl, heven, ?_⟩
    intro behind hhead
    exact afterQuoted?_twice (hbehind behind hhead)
  | case3 cs hnone ih =>
    -- An odd number of quotes is left, so the quoted text is closed later.
    have hodd : cs.count '\'' % 2 = 1 := by
      rw [List.count_cons_self, List.count_cons_self] at h
      omega
    obtain ⟨after, hafter, -⟩ := ih hodd
    rw [hnone] at hafter
    cases hafter
  | case4 cs hsingle =>
    refine ⟨cs, rfl, ?_, ?_⟩
    · rw [List.count_cons_self] at h
      omega
    · intro behind hhead
      show afterQuoted? ('\'' :: (cs ++ behind)) = some (cs ++ behind)
      apply afterQuoted?_close
      cases cs with
      | nil => exact hhead
      | cons d cs =>
        intro hd
        exact hsingle cs (by rw [Option.some.inj hd])
  | case5 c cs hpair hc ih =>
    rw [List.count_cons_of_ne hc] at h
    obtain ⟨after, hafter, heven, hbehind⟩ := ih h
    refine ⟨after, hafter, heven, ?_⟩
    intro behind hhead
    show afterQuoted? (c :: (cs ++ behind)) = some (after ++ behind)
    rw [afterQuoted?_of_ne hc, hbehind behind hhead]

/-- A text in which every quote is doubled ends at the quote behind it, whatever it holds. -/
theorem afterQuoted?_doubleChar (s : List Char) (h : behind.head? ≠ some '\'') :
    afterQuoted? (doubleChar '\'' s ++ '\'' :: behind) = some behind := by
  induction s with
  | nil => exact afterQuoted?_close h
  | cons c s ih =>
    by_cases hc : c = '\''
    · subst hc
      exact afterQuoted?_twice ih
    · have hdouble : doubleChar '\'' (c :: s) = c :: doubleChar '\'' s := by
        simp [doubleChar, hc]
      rw [hdouble, List.cons_append, afterQuoted?_of_ne hc, ih]

/-! ### The scan of an expression -/

/-- A quoted text leaves one blank. -/
theorem withoutQuoted_quoted (h : afterQuoted? cs = some after) :
    withoutQuoted ('\'' :: cs) = ' ' :: withoutQuoted after := by
  rw [withoutQuoted, if_pos rfl]
  split
  · rename_i hsome
    rw [h] at hsome
    cases hsome
    rfl
  · rename_i hnone
    rw [h] at hnone
    cases hnone

/-- A character outside of quoted text stays. -/
theorem withoutQuoted_of_ne (h : c ≠ '\'') :
    withoutQuoted (c :: cs) = c :: withoutQuoted cs := by
  rw [withoutQuoted, if_neg h]

/-- Behind an even number of quotes the scan starts afresh. -/
theorem withoutQuoted_append (h : cs.count '\'' % 2 = 0) (hbehind : behind.head? ≠ some '\'') :
    withoutQuoted (cs ++ behind) = withoutQuoted cs ++ withoutQuoted behind := by
  fun_induction withoutQuoted cs with
  | case1 => rfl
  | case2 rest after hafter ih =>
    have hodd : rest.count '\'' % 2 = 1 := by
      rw [List.count_cons_self] at h
      omega
    obtain ⟨after', hafter', heven, hclosed⟩ := afterQuoted?_append hodd
    rw [hafter] at hafter'
    cases hafter'
    rw [List.cons_append, withoutQuoted_quoted (hclosed behind hbehind), ih heven,
      List.cons_append]
  | case3 rest hnone ih =>
    -- The quote has a partner, so it opens a quoted text.
    have hodd : rest.count '\'' % 2 = 1 := by
      rw [List.count_cons_self] at h
      omega
    obtain ⟨after, hafter, -⟩ := afterQuoted?_append hodd
    rw [hnone] at hafter
    cases hafter
  | case4 c rest hc ih =>
    rw [List.count_cons_of_ne hc] at h
    rw [List.cons_append, withoutQuoted_of_ne hc, ih h, List.cons_append]

/-- If the last character in front is no quote, it does not matter what comes first behind it. -/
theorem withoutQuoted_append_of_getLast? (h : cs.count '\'' % 2 = 0)
    (hlast : cs.getLast? ≠ some '\'') (behind : List Char) :
    withoutQuoted (cs ++ behind) = withoutQuoted cs ++ withoutQuoted behind := by
  rcases List.eq_nil_or_concat cs with rfl | ⟨front, c, hcs⟩
  · simp [withoutQuoted]
  · rw [List.concat_eq_append] at hcs
    subst hcs
    have hc : c ≠ '\'' := by simpa using hlast
    have hfront : front.count '\'' % 2 = 0 := by
      simpa [List.count_append, List.count_singleton, hc] using h
    -- The scan is cut in front of `c`, which keeps the quotes on its two sides apart.
    have hcut : ∀ rest, withoutQuoted (front ++ c :: rest)
        = withoutQuoted front ++ c :: withoutQuoted rest := by
      intro rest
      rw [withoutQuoted_append hfront (by simpa using hc), withoutQuoted_of_ne hc]
    rw [List.append_assoc, List.singleton_append, hcut, hcut, List.append_assoc,
      List.cons_append]
    simp [withoutQuoted]

/-- A literal becomes a blank, whatever it holds. -/
theorem withoutQuoted_literal (s : List Char) (h : cs.count '\'' % 2 = 0)
    (hlast : cs.getLast? ≠ some '\'') (hbehind : behind.head? ≠ some '\'') :
    withoutQuoted (cs ++ '\'' :: (doubleChar '\'' s ++ '\'' :: behind))
      = withoutQuoted cs ++ ' ' :: withoutQuoted behind := by
  rw [withoutQuoted_append_of_getLast? h hlast,
    withoutQuoted_quoted (afterQuoted?_doubleChar s hbehind)]

/-! ### The tables of an expression -/

/-- The tables of an expression from which the quoted texts have been taken, if it has a column or a
wildcard. -/
def tablesOfScanned? (scanned : List Char) : Option (List String) :=
  let tables := distinct ((qualifiers true scanned).map String.ofList)
  if tables.isEmpty && !hasWildcard true (trim scanned) then none else some tables

/-- Nothing of an expression decides on its tables but what is left of it by the scan. -/
theorem tableNames_eq (expression : String) :
    tableNames expression = match tablesOfScanned? (withoutQuoted expression.toList) with
      | some tables => .ok tables
      | none => .error (.malformedColumn expression) := by
  unfold tableNames tablesOfScanned?
  dsimp only
  split <;> rfl

/-- An expression with a text in it as a literal: between quotes, and with every quote doubled. -/
def withLiteral (before text behind : String) : String :=
  before ++ singleQuoted (doubleQuotes text) ++ behind

/-- The characters of an expression with a literal in it, quotes doubled. -/
theorem toList_withLiteral (before text behind : String) :
    (withLiteral before text behind).toList
      = before.toList ++ '\'' :: (doubleChar '\'' text.toList ++ '\'' :: behind.toList) := by
  simp [withLiteral, toList_singleQuoted, doubleQuotes]

/-- What a literal in an expression holds is data: with another text in it the expression has the
same tables, or is malformed as it was. -/
theorem tableNames_withLiteral {before behind : String} (h : before.toList.count '\'' % 2 = 0)
    (hlast : before.toList.getLast? ≠ some '\'') (hbehind : behind.toList.head? ≠ some '\'')
    (s t : String) :
    (∃ tables, tableNames (withLiteral before s behind) = .ok tables ∧
        tableNames (withLiteral before t behind) = .ok tables) ∨
      (tableNames (withLiteral before s behind)
          = .error (.malformedColumn (withLiteral before s behind)) ∧
        tableNames (withLiteral before t behind)
          = .error (.malformedColumn (withLiteral before t behind))) := by
  -- The scan does not see what is in the literal: a blank stands for all of it.
  have hscan : ∀ text, withoutQuoted (withLiteral before text behind).toList
      = withoutQuoted before.toList ++ ' ' :: withoutQuoted behind.toList := by
    intro text
    rw [toList_withLiteral]
    exact withoutQuoted_literal text.toList h hlast hbehind
  rw [tableNames_eq, tableNames_eq, hscan s, hscan t]
  cases tablesOfScanned? (withoutQuoted before.toList ++ ' ' :: withoutQuoted behind.toList) with
  | some tables => exact .inl ⟨tables, rfl, rfl⟩
  | none => exact .inr ⟨rfl, rfl⟩

/-- A literal between two columns. With nothing in it, or with two more columns and two more quotes,
the tables are those in front of it and behind it. -/
theorem tableNames_withLiteral_betweenColumns :
    "t.name = ".toList.count '\'' % 2 = 0 ∧ "t.name = ".toList.getLast? ≠ some '\'' ∧
      " OR s.x = 1".toList.head? ≠ some '\'' ∧
      withLiteral "t.name = " "it's u.v', w.x" " OR s.x = 1"
        = "t.name = 'it''s u.v'', w.x' OR s.x = 1" ∧
      tableNames (withLiteral "t.name = " "" " OR s.x = 1") = .ok ["t", "s"] ∧
      tableNames (withLiteral "t.name = " "it's u.v', w.x" " OR s.x = 1") = .ok ["t", "s"] := by
  have heven : "t.name = ".toList.count '\'' % 2 = 0 := by decide
  have hlast : "t.name = ".toList.getLast? ≠ some '\'' := by decide
  have hbehind : " OR s.x = 1".toList.head? ≠ some '\'' := by decide
  have hempty : tableNames (withLiteral "t.name = " "" " OR s.x = 1") = .ok ["t", "s"] := by
    decide +kernel
  refine ⟨heven, hlast, hbehind, by decide +kernel, hempty, ?_⟩
  rcases tableNames_withLiteral heven hlast hbehind "" "it's u.v', w.x" with
    ⟨tables, hone, hother⟩ | ⟨herror, -⟩
  · rw [hempty] at hone
    cases hone
    exact hother
  · rw [hempty] at herror
    cases herror

end SqlSelect.Column
