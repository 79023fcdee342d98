import SqlSelect.Proofs.Patterns.Matching

/-!
# `SqlSelect.Proofs.Patterns.Translation`: patterns in the form of SQL

`LikePattern.ofChars` reads a pattern from the left and writes it in the form of SQL. The wildcards
`*` and `?` become those of SQL, and where they are escaped they lose their backslash, because SQL
knows no such wildcards. The wildcards of SQL stay as they are, with their backslash if they are
escaped. So each step leaves a part of the same meaning, and the texts that match are the same.

The backslash that escapes no wildcard is the exception. It stays in the pattern, and there it
escapes the character behind it.

* `LikePattern.sqlAccepts_ofChars_pair`: what stands behind a backslash stands for itself in SQL.
* `LikePattern.sqlAccepts_ofChars`, `LikePattern.hasWildcard_iff`: what the pattern in the form of
  SQL matches, and when it has wildcards.
* `LikePattern.sqlAccepts_iff_spelled?`, `LikePattern.spelled?_eq_literal_iff`: the text that
  matches a pattern without wildcards, and when it is the literal.
* `LikePattern.ofText_translates`: what is matched is the pattern that was given.
-/

set_option autoImplicit false

namespace SqlSelect.LikePattern

variable {c : Char} {cs : List Char}

/-! ### What is read with a backslash -/

/-- Behind a backslash stands a character that is matched by itself in SQL. -/
theorem sqlAccepts_ofChars_pair (c : Char) (cs : List Char) :
    sqlAccepts (ofChars ('\\' :: c :: cs)).pattern
      = oneChar c (sqlAccepts (ofChars cs).pattern) := by
  rw [ofChars]
  split
  · -- The backslash is gone, and the character is none of those that mean something in SQL.
    rename_i hwild
    have hplain : c ≠ '\\' ∧ c ≠ '%' ∧ c ≠ '_' := by
      rcases hwild with rfl | rfl <;> decide
    show sqlAccepts (c :: (ofChars cs).pattern) = _
    rw [sqlAccepts_char hplain.1, if_neg hplain.2.1, if_neg hplain.2.2]
  · split <;> rfl

/-- What stands behind a backslash is no wildcard, escaped or not. -/
theorem hasWildcard_pair (c : Char) (cs : List Char) :
    (ofChars ('\\' :: c :: cs)).hasWildcard = (ofChars cs).hasWildcard := by
  rw [ofChars]
  split
  · rfl
  · split <;> rfl

/-- A backslash is dropped from the literal only if it escapes a wildcard. -/
theorem literal_pair (c : Char) (cs : List Char) : (ofChars ('\\' :: c :: cs)).literal
    = if isWildcard c then c :: (ofChars cs).literal else '\\' :: c :: (ofChars cs).literal := by
  rw [ofChars]
  simp only [isWildcard_iff]
  by_cases hstar : c = '*' ∨ c = '?'
  · rw [if_pos hstar, if_pos (hstar.elim .inl fun h => .inr (.inl h))]
    rfl
  · rw [if_neg hstar]
    by_cases hsql : c = '%' ∨ c = '_'
    · rw [if_pos hsql, if_pos (.inr (.inr hsql))]
      rfl
    · rw [if_neg hsql, if_neg fun h => (or_assoc.mpr h).elim hstar hsql]
      rfl

/-! ### What is read without one -/

/-- A wildcard of either language becomes that of SQL, and any other character stays. -/
theorem sqlAccepts_ofChars_char (hc : c ≠ '\\') (cs : List Char) :
    sqlAccepts (ofChars (c :: cs)).pattern
      = if c = '*' ∨ c = '%' then anyText (sqlAccepts (ofChars cs).pattern)
        else if c = '?' ∨ c = '_' then anyChar (sqlAccepts (ofChars cs).pattern)
        else oneChar c (sqlAccepts (ofChars cs).pattern) := by
  rw [ofChars_char hc]
  -- The two wildcards of the builder become characters that need no escape of their own.
  by_cases hstar : c = '*'
  · subst hstar
    exact sqlAccepts_char (by decide) _
  by_cases hmark : c = '?'
  · subst hmark
    exact sqlAccepts_char (by decide) _
  rw [if_neg hstar, if_neg hmark]
  simp only [hstar, hmark, false_or]
  split
  · exact sqlAccepts_char hc _
  · exact sqlAccepts_char hc _

/-- An ordinary character is translated to itself. -/
theorem ofChars_ordinary (hc : c ≠ '\\') (hwild : isWildcard c = false) (cs : List Char) :
    ofChars (c :: cs) = prepend [c] [c] (ofChars cs) := by
  obtain ⟨hstar, hmark, hpercent, hunderscore⟩ := isWildcard_eq_false_iff.mp hwild
  rw [ofChars_char hc, if_neg hstar, if_neg hmark, if_neg (not_or.mpr ⟨hpercent, hunderscore⟩)]

/-- And so it matches itself in SQL. -/
theorem sqlAccepts_ofChars_ordinary (hc : c ≠ '\\') (hwild : isWildcard c = false)
    (cs : List Char) : sqlAccepts (ofChars (c :: cs)).pattern
      = oneChar c (sqlAccepts (ofChars cs).pattern) := by
  obtain ⟨hstar, hmark, hpercent, hunderscore⟩ := isWildcard_eq_false_iff.mp hwild
  rw [sqlAccepts_ofChars_char hc, if_neg (not_or.mpr ⟨hstar, hpercent⟩),
    if_neg (not_or.mpr ⟨hmark, hunderscore⟩)]

/-- A pattern has a wildcard in front or further back. -/
theorem hasWildcard_char (hc : c ≠ '\\') (cs : List Char) :
    (ofChars (c :: cs)).hasWildcard = (isWildcard c || (ofChars cs).hasWildcard) := by
  cases hwild : isWildcard c with
  | true =>
    rw [ofChars_char hc]
    rcases isWildcard_iff.mp hwild with rfl | rfl | rfl | rfl <;> rfl
  | false =>
    rw [ofChars_ordinary hc hwild]
    rfl

/-! ### The same texts -/

/-- The patterns match the same texts if backslashes only escape wildcards. The induction is on the
pattern as it is read, and every step leaves a part that matches the same. -/
theorem sqlAccepts_ofChars (h : escapesWildcards cs = true) :
    sqlAccepts (ofChars cs).pattern = accepts cs := by
  induction cs using readingInduction with
  | nil => rfl
  | final => cases h
  | pair c cs ih =>
    -- The character is a wildcard, so it stands for itself in both languages.
    rw [escapesWildcards, Bool.and_eq_true] at h
    rw [sqlAccepts_ofChars_pair, accepts, if_pos h.1, ih h.2]
  | char c cs hc ih =>
    rw [escapesWildcards_char hc] at h
    rw [sqlAccepts_ofChars_char hc, accepts_char hc, ih h]

/-- A pattern is found to have wildcards exactly if one of them is not escaped, where nothing else
is escaped. -/
theorem hasWildcard_iff (h : escapesWildcards cs = true) :
    (ofChars cs).hasWildcard = true ↔ HasOpenWildcard cs := by
  induction cs using readingInduction with
  | nil => simp [ofChars, HasOpenWildcard]
  | final => cases h
  | pair c cs ih =>
    rw [escapesWildcards, Bool.and_eq_true] at h
    rw [hasWildcard_pair, hasOpenWildcard_pair (ne_backslash_of_isWildcard h.1), ih h.2]
  | char c cs hc ih =>
    rw [escapesWildcards_char hc] at h
    rw [hasWildcard_char hc, hasOpenWildcard_char hc, Bool.or_eq_true, ih h]

/-! ### Without wildcards -/

/-- The text without the backslashes that escape what is behind them. There is no text if one has
nothing behind it. -/
def spelled? : List Char → Option (List Char)
  | [] => some []
  | ['\\'] => none
  | '\\' :: c :: cs => (spelled? cs).map (c :: ·)
  | c :: cs => (spelled? cs).map (c :: ·)

/-- A character other than the backslash spells itself. -/
theorem spelled?_char (hc : c ≠ '\\') (cs : List Char) :
    spelled? (c :: cs) = (spelled? cs).map (c :: ·) := by
  rw [spelled?.eq_def]
  split <;> simp_all

/-- If there is one text at most for the rest of a pattern, there is one at most for the pattern. -/
theorem oneChar_iff_map {rest : List Char → Bool} {only? : Option (List Char)}
    (h : ∀ text, rest text = true ↔ only? = some text) (c : Char) (text : List Char) :
    oneChar c rest text = true ↔ only?.map (c :: ·) = some text := by
  simp only [oneChar_eq_true_iff, h, Option.map_eq_some_iff]
  constructor
  · rintro ⟨behind, rfl, hbehind⟩
    exact ⟨behind, hbehind, rfl⟩
  · rintro ⟨behind, hbehind, rfl⟩
    exact ⟨behind, rfl, hbehind⟩

/-- A pattern of SQL without wildcards matches one text at most. -/
theorem sqlAccepts_iff_spelled? (hnone : (ofChars cs).hasWildcard = false) (text : List Char) :
    sqlAccepts (ofChars cs).pattern text = true ↔ spelled? cs = some text := by
  induction cs using readingInduction generalizing text with
  | nil => cases text <;> simp [ofChars, sqlAccepts, spelled?]
  | final => simp [ofChars, sqlAccepts, spelled?]
  | pair c cs ih =>
    rw [hasWildcard_pair] at hnone
    rw [sqlAccepts_ofChars_pair, spelled?]
    exact oneChar_iff_map (ih hnone) c text
  | char c cs hc ih =>
    rw [hasWildcard_char hc, Bool.or_eq_false_iff] at hnone
    rw [sqlAccepts_ofChars_ordinary hc hnone.1, spelled?_char hc]
    exact oneChar_iff_map (ih hnone.2) c text

/-- The literal keeps the backslashes that escape no wildcard. -/
theorem length_le_literal {text : List Char} (hnone : (ofChars cs).hasWildcard = false)
    (h : spelled? cs = some text) : text.length ≤ (ofChars cs).literal.length := by
  induction cs using readingInduction generalizing text with
  | nil =>
    obtain rfl := Option.some.inj h
    exact Nat.le_refl _
  | final => cases h
  | pair c cs ih =>
    rw [hasWildcard_pair] at hnone
    obtain ⟨behind, hbehind, rfl⟩ := Option.map_eq_some_iff.mp h
    have hle := ih hnone hbehind
    rw [literal_pair]
    -- An escaped pair gives one character of the text and one or two of the literal.
    split <;> simp only [List.length_cons] <;> omega
  | char c cs hc ih =>
    rw [hasWildcard_char hc, Bool.or_eq_false_iff] at hnone
    rw [spelled?_char hc] at h
    obtain ⟨behind, hbehind, rfl⟩ := Option.map_eq_some_iff.mp h
    rw [ofChars_ordinary hc hnone.1]
    exact Nat.succ_le_succ (ih hnone.2 hbehind)

/-- The text that matches is the literal exactly if backslashes only escape wildcards. -/
theorem spelled?_eq_literal_iff (hnone : (ofChars cs).hasWildcard = false) :
    spelled? cs = some (ofChars cs).literal ↔ escapesWildcards cs = true := by
  induction cs using readingInduction with
  | nil => simp [spelled?, ofChars, escapesWildcards]
  | final => simp [spelled?, escapesWildcards]
  | pair c cs ih =>
    rw [hasWildcard_pair] at hnone
    rw [spelled?, literal_pair, escapesWildcards]
    cases hwild : isWildcard c with
    | true =>
      rw [if_pos rfl, Bool.true_and, ← ih hnone]
      simp
    | false =>
      -- The literal has a backslash more, and there is none too few behind it to make up for it.
      rw [if_neg Bool.false_ne_true, Bool.false_and]
      refine iff_of_false (fun h => ?_) Bool.false_ne_true
      obtain ⟨behind, hbehind, heq⟩ := Option.map_eq_some_iff.mp h
      have hle := length_le_literal hnone hbehind
      rw [(List.cons.inj heq).2, List.length_cons] at hle
      omega
  | char c cs hc ih =>
    rw [hasWildcard_char hc, Bool.or_eq_false_iff] at hnone
    rw [spelled?_char hc, ofChars_ordinary hc hnone.1, escapesWildcards_char hc, ← ih hnone.2]
    simp [prepend]

/-! ### Patterns as texts -/

/-- Without wildcards the literal is the one text that matches, where nothing but wildcards is
escaped. -/
theorem sqlAccepts_iff_eq_literal {p : String} (hescapes : escapesWildcards p.toList = true)
    (hnone : (ofText p).hasWildcard = false) (s : String) :
    sqlAccepts (ofText p).pattern s.toList = true ↔ s = String.ofList (ofText p).literal := by
  have hliteral := (spelled?_eq_literal_iff hnone).mpr hescapes
  show sqlAccepts (ofChars p.toList).pattern s.toList = true ↔
    s = String.ofList (ofChars p.toList).literal
  rw [sqlAccepts_iff_spelled? hnone, hliteral, Option.some.injEq]
  constructor
  · intro heq
    rw [heq, String.ofList_toList]
  · rintro rfl
    rw [String.toList_ofList]

/-- A pattern in which backslashes only escape wildcards matches the same texts in the form of SQL.
It has wildcards in this form exactly if one of its own is not escaped, and otherwise the only text
that matches is its literal. -/
theorem ofText_translates {p : String} (hescapes : escapesWildcards p.toList = true) :
    (∀ s : String, sqlAccepts (ofText p).pattern s.toList = accepts p.toList s.toList) ∧
      ((ofText p).hasWildcard = true ↔ HasOpenWildcard p.toList) ∧
      ((ofText p).hasWildcard = false → ∀ s : String,
        sqlAccepts (ofText p).pattern s.toList = true ↔ s = String.ofList (ofText p).literal) := by
  refine ⟨?_, hasWildcard_iff hescapes, sqlAccepts_iff_eq_literal hescapes⟩
  intro s
  exact congrFun (sqlAccepts_ofChars hescapes) s.toList

/-- Escaped and open wildcards of both languages. -/
theorem ofText_translates_mixedWildcards :
    escapesWildcards "50\\% J?n*\\*\\_".toList = true ∧
      (ofText "50\\% J?n*\\*\\_").pattern = "50\\% J_n%*\\_".toList ∧
      sqlAccepts (ofText "50\\% J?n*\\*\\_").pattern "50% Jon and Jan*_".toList = true ∧
      sqlAccepts (ofText "50\\% J?n*\\*\\_").pattern "500 Jon and Jan*_".toList = false ∧
      HasOpenWildcard "50\\% J?n*\\*\\_".toList := by
  have hescapes : escapesWildcards "50\\% J?n*\\*\\_".toList = true := by decide +kernel
  have hwildcard : (ofText "50\\% J?n*\\*\\_").hasWildcard = true := by decide +kernel
  obtain ⟨hsame, hopen, -⟩ := ofText_translates hescapes
  refine ⟨hescapes, by decide +kernel, ?_, ?_, hopen.mp hwildcard⟩
  · rw [hsame]
    decide +kernel
  · rw [hsame]
    decide +kernel

end SqlSelect.LikePattern
