import Mathlib.Data.List.TakeWhile
import SqlSelect.Criterion.Condition

/-!
# `SqlSelect.Proofs.Rendering.QuotedNames`: plain names between quotes

`Style.identifier` quotes plain paths and leaves every other expression as it is. Quoting works
segment by segment, so what stands in front of a dot is quoted by itself, whatever stands behind it.

* `Style.identifier_append_dot`: a qualified column is its qualifier, a dot and the column, each as
  it is written alone.
* `Style.identifier_eq_self_iff`: which expressions are left as they are.
-/

set_option autoImplicit false

namespace SqlSelect

open Text

/-! ### Identifiers -/

namespace Column

/-- Whether a name is an identifier as a whole. -/
def IsIdentifier (name : String) : Prop :=
  readIdentifier? name.toList = some (name.toList, [])

instance (name : String) : Decidable (IsIdentifier name) :=
  inferInstanceAs (Decidable (_ = _))

/-- What is read as an identifier starts with a character that one may start with. -/
theorem exists_of_readIdentifier? {cs name rest : List Char}
    (h : readIdentifier? cs = some (name, rest)) :
    ∃ c tail, cs = c :: tail ∧ isIdentifierStart c = true := by
  cases cs with
  | nil => cases h
  | cons c tail =>
    rw [readIdentifier?] at h
    by_cases hstart : isIdentifierStart c = true
    · exact ⟨c, tail, rfl, hstart⟩
    · rw [if_neg hstart] at h
      cases h

/-- An identifier starts with a start character and goes on with parts. -/
theorem IsIdentifier.exists_chars {name : String} (h : IsIdentifier name) :
    ∃ c cs, name.toList = c :: cs ∧ isIdentifierStart c = true ∧
      ∀ x ∈ cs, isIdentifierPart x = true := by
  obtain ⟨c, cs, hchars, hstart⟩ := exists_of_readIdentifier? h
  refine ⟨c, cs, hchars, hstart, ?_⟩
  have hread : some (c :: cs.takeWhile isIdentifierPart, cs.dropWhile isIdentifierPart)
      = some (c :: cs, []) := by
    rw [IsIdentifier, hchars, readIdentifier?, if_pos hstart] at h
    exact h
  have hrest : cs.dropWhile isIdentifierPart = [] :=
    congrArg Prod.snd (Option.some.inj hread)
  exact List.dropWhile_eq_nil_iff.mp hrest

/-- An identifier starts with a letter or an underscore, and word characters and dollar signs
follow. -/
theorem isIdentifier_iff {name : String} :
    IsIdentifier name ↔ ∃ c cs, name.toList = c :: cs ∧ isIdentifierStart c = true ∧
      ∀ x ∈ cs, isIdentifierPart x = true := by
  refine ⟨IsIdentifier.exists_chars, ?_⟩
  rintro ⟨c, cs, hchars, hstart, hparts⟩
  rw [IsIdentifier, hchars, readIdentifier?, if_pos hstart, List.takeWhile_eq_self_iff.mpr hparts,
    List.dropWhile_eq_nil_iff.mpr hparts]

/-- What is read as an identifier is one as a whole. -/
theorem isIdentifier_of_readIdentifier? {cs name rest : List Char}
    (h : readIdentifier? cs = some (name, rest)) : IsIdentifier (String.ofList name) := by
  obtain ⟨c, tail, rfl, hstart⟩ := exists_of_readIdentifier? h
  rw [readIdentifier?, if_pos hstart] at h
  cases h
  rw [isIdentifier_iff]
  exact ⟨c, _, String.toList_ofList, hstart, fun x hx => List.mem_takeWhile_imp hx⟩

/-- What starts an identifier can also continue one. -/
theorem isIdentifierPart_of_isIdentifierStart {c : Char} (h : isIdentifierStart c = true) :
    isIdentifierPart c = true := by
  rw [isIdentifierStart, Bool.or_eq_true, beq_iff_eq] at h
  rcases h with halpha | rfl
  · -- Letters in words go beyond ASCII, so the bound is needed first.
    have hascii : c.toNat < 0x80 := by
      have hletter : (c.isUpper || c.isLower) = true := halpha
      rcases Bool.or_eq_true_iff.mp hletter with hupper | hlower
      · have hbounds : 'A'.val ≤ c.val ∧ c.val ≤ 'Z'.val := of_decide_eq_true hupper
        have hhigh : c.toNat ≤ 90 := hbounds.2
        omega
      · have hhigh : c.toNat ≤ 122 := of_decide_eq_true (Bool.and_eq_true_iff.mp hlower).2
        omega
    have halphanum : c.isAlphanum = true := by
      show (c.isAlpha || c.isDigit) = true
      rw [halpha, Bool.true_or]
    simp [isIdentifierPart, isWordChar, hascii, halphanum]
  · decide

/-- Every character of an identifier is a part of one. -/
theorem IsIdentifier.isIdentifierPart {name : String} (h : IsIdentifier name) :
    ∀ x ∈ name.toList, isIdentifierPart x = true := by
  obtain ⟨c, cs, hchars, hstart, hparts⟩ := h.exists_chars
  rw [hchars, List.forall_mem_cons]
  exact ⟨isIdentifierPart_of_isIdentifierStart hstart, hparts⟩

/-- So no other character is in it, such as a dot or a quote. -/
theorem IsIdentifier.notMem {name : String} (h : IsIdentifier name) {c : Char}
    (hc : Column.isIdentifierPart c = false) : c ∉ name.toList := by
  intro hmem
  rw [h.isIdentifierPart c hmem] at hc
  cases hc

/-- An identifier ends in front of a dot. -/
theorem readIdentifier?_append_dot {name : String} (h : IsIdentifier name) (cs : List Char) :
    readIdentifier? (name.toList ++ '.' :: cs) = some (name.toList, '.' :: cs) := by
  obtain ⟨c, rest, hchars, hstart, hparts⟩ := h.exists_chars
  have hdot : isIdentifierPart '.' = false := by decide
  rw [hchars, List.cons_append, readIdentifier?, if_pos hstart,
    List.takeWhile_append_of_pos hparts, List.dropWhile_append_of_pos hparts,
    List.takeWhile_cons_of_neg (by simp [hdot]), List.dropWhile_cons_of_neg (by simp [hdot]),
    List.append_nil]

/-! ### Paths -/

/-- An identifier alone is a path. -/
theorem isPath_of_readIdentifier? {cs name : List Char}
    (h : readIdentifier? cs = some (name, [])) : isPath cs = true := by
  unfold isPath
  split
  · rfl
  · rename_i hread
    rw [h] at hread
    cases hread
  · rename_i hend _
    exact absurd h (hend name)

/-- Behind an identifier and a dot, a path goes on with `*` or with a path. -/
theorem isPath_of_readIdentifier?_dot {cs name rest : List Char}
    (h : readIdentifier? cs = some (name, '.' :: rest)) :
    isPath cs = (rest == ['*'] || isPath rest) := by
  rw [isPath]
  split
  · rename_i hread
    rw [h] at hread
    cases hread
  · rename_i hread
    rw [h] at hread
    cases hread
    rfl
  · rename_i hdot
    exact absurd h (hdot name rest)

/-- A table alias that is an identifier is quoted where quoting is on. -/
theorem isIdentifierPath_of_isIdentifier {name : String} (h : IsIdentifier name) :
    isIdentifierPath name = true :=
  isPath_of_readIdentifier? h

/-- What can stand behind the last dot of a path. -/
def IsColumn (column : String) : Prop :=
  IsIdentifier column ∨ column = "*"

/-- So is a column of it, or all its columns. -/
theorem isIdentifierPath_append_dot {name column : String} (hname : IsIdentifier name)
    (hcolumn : IsColumn column) : isIdentifierPath (name ++ "." ++ column) = true := by
  have hchars : (name ++ "." ++ column).toList = name.toList ++ '.' :: column.toList := by simp
  rw [isIdentifierPath, hchars, isPath_of_readIdentifier?_dot (readIdentifier?_append_dot hname _),
    Bool.or_eq_true]
  rcases hcolumn with hcolumn | rfl
  · exact .inr (isIdentifierPath_of_isIdentifier hcolumn)
  · exact .inl rfl

/-- A path starts as an identifier does. -/
theorem exists_of_isIdentifierPath {expression : String}
    (h : isIdentifierPath expression = true) :
    ∃ c cs, expression.toList = c :: cs ∧ isIdentifierStart c = true := by
  rw [isIdentifierPath, isPath] at h
  split at h
  · exact exists_of_readIdentifier? ‹_›
  · exact exists_of_readIdentifier? ‹_›
  · cases h

end Column

/-! ### Quoting segment by segment -/

section QuotedName

variable (opening closing : Char)

/-- The part of a name in front of its first dot is quoted by itself. -/
theorem quotedName_append_dot {name : String} (h : '.' ∉ name.toList) (column : String) :
    quotedName opening closing (name ++ "." ++ column)
      = quotedName opening closing name ++ "." ++ quotedName opening closing column := by
  have hchars : (name ++ "." ++ column).toList = name.toList ++ '.' :: column.toList := by simp
  rw [quotedName, quotedName, quotedName, hchars, segments_append_of_notMem h,
    segments_of_notMem h]
  obtain ⟨first, rest, hsegments⟩ := List.exists_cons_of_ne_nil (segments_ne_nil '.' column.toList)
  rw [hsegments]
  apply String.toList_injective
  simp [List.intercalate_cons_cons]

/-- Quoting makes every segment longer but `*`. -/
theorem length_le_quotedSegment (segment : List Char) :
    segment.length ≤ (quotedSegment opening closing segment).length := by
  unfold quotedSegment
  split
  · exact Nat.le_refl _
  · have hdoubled := length_le_doubleChar closing segment
    rw [List.length_append, List.length_cons]
    omega

/-- A segment other than `*` gets two quotes at least. -/
theorem length_lt_quotedSegment {segment : List Char} (h : segment ≠ ['*']) :
    segment.length < (quotedSegment opening closing segment).length := by
  have hdoubled := length_le_doubleChar closing segment
  rw [quotedSegment, if_neg h, List.length_append, List.length_cons]
  omega

/-- So does a whole name, whatever its segments are. -/
theorem length_intercalate_le (segments : List (List Char)) :
    (['.'].intercalate segments).length
      ≤ (['.'].intercalate (segments.map (quotedSegment opening closing))).length := by
  induction segments with
  | nil => exact Nat.le_refl _
  | cons first rest ih =>
    have hfirst := length_le_quotedSegment opening closing first
    cases rest with
    | nil => simpa using hfirst
    | cons second rest =>
      rw [List.map_cons] at ih
      rw [List.map_cons, List.map_cons, List.intercalate_cons_cons, List.intercalate_cons_cons]
      simp only [List.length_append]
      omega

/-- A name that does not start with `*` is longer between quotes, so it is not the same name. -/
theorem quotedName_ne_self {name : String} {c : Char} {cs : List Char}
    (hchars : name.toList = c :: cs) (hdot : c ≠ '.') (hall : c ≠ '*') :
    quotedName opening closing name ≠ name := by
  intro heq
  obtain ⟨first, rest, hsegments⟩ :
      ∃ first rest, segments '.' (c :: cs) = (c :: first) :: rest := by
    obtain ⟨first, rest, htail⟩ := List.exists_cons_of_ne_nil (segments_ne_nil '.' cs)
    exact ⟨first, rest, by rw [segments, if_neg hdot, htail]⟩
  have hjoined : ['.'].intercalate ((c :: first) :: rest) = c :: cs := by
    rw [← hsegments, intercalate_segments]
  have hquoted : ['.'].intercalate
      (((c :: first) :: rest).map (quotedSegment opening closing)) = c :: cs := by
    have hname := congrArg String.toList heq
    rwa [quotedName, String.toList_ofList, hchars, hsegments] at hname
  -- The first segment is not the star, so quotes are put around it.
  have hfirst : (c :: first).length < (quotedSegment opening closing (c :: first)).length := by
    apply length_lt_quotedSegment
    intro hstar
    exact hall (List.cons.inj hstar).1
  have hlengths := congrArg List.length (hjoined.trans hquoted.symm)
  -- The other segments do not shrink, so the whole is longer than the name.
  cases rest with
  | nil =>
    simp only [List.map_cons, List.map_nil, List.intercalate_singleton] at hlengths
    omega
  | cons second rest =>
    have hrest := length_intercalate_le opening closing (second :: rest)
    rw [List.map_cons] at hrest
    rw [List.map_cons, List.map_cons, List.intercalate_cons_cons,
      List.intercalate_cons_cons] at hlengths
    simp only [List.length_append] at hlengths
    omega

end QuotedName

namespace Style

variable (s : Style)

/-- Where names are quoted, plain paths are. -/
theorem identifier_of_quoted (hquote : s.quoteIdentifiers = true) {expression : String}
    (h : Column.isIdentifierPath expression = true) :
    s.identifier expression = s.dialect.quoteIdentifier expression := by
  rw [identifier, hquote, h, Bool.and_self, if_pos rfl]

/-- Any other expression is written as it is. -/
theorem identifier_of_unquoted {expression : String}
    (h : s.quoteIdentifiers = false ∨ Column.isIdentifierPath expression = false) :
    s.identifier expression = expression := by
  rw [identifier, Bool.and_eq_false_iff.mpr h, if_neg Bool.false_ne_true]

variable (hquoting : s.dialect.quoteIdentifier
  = quotedName s.dialect.openQuote s.dialect.closeQuote)
include hquoting

/-- A plain path is quoted if anything is, and no quoted path looks like the path itself. -/
theorem identifier_eq_self_iff (expression : String) :
    s.identifier expression = expression ↔
      s.quoteIdentifiers = false ∨ Column.isIdentifierPath expression = false := by
  refine ⟨fun h => ?_, s.identifier_of_unquoted⟩
  by_contra hquoted
  rw [not_or, Bool.not_eq_false, Bool.not_eq_false] at hquoted
  obtain ⟨hquote, hpath⟩ := hquoted
  obtain ⟨c, cs, hchars, hstart⟩ := Column.exists_of_isIdentifierPath hpath
  rw [s.identifier_of_quoted hquote hpath, hquoting] at h
  refine quotedName_ne_self _ _ hchars ?_ ?_ h
  · rintro rfl
    exact absurd hstart (by decide)
  · rintro rfl
    exact absurd hstart (by decide)

/-- A column behind a table is quoted as the table and the column are. -/
theorem identifier_append_dot {name column : String} (hname : Column.IsIdentifier name)
    (hcolumn : Column.IsColumn column) :
    s.identifier (name ++ "." ++ column) = s.identifier name ++ "." ++ s.identifier column := by
  cases hquote : s.quoteIdentifiers with
  | false =>
    rw [s.identifier_of_unquoted (.inl hquote), s.identifier_of_unquoted (.inl hquote),
      s.identifier_of_unquoted (.inl hquote)]
  | true =>
    have hlast : s.identifier column = s.dialect.quoteIdentifier column := by
      rcases hcolumn with hcolumn | rfl
      · exact s.identifier_of_quoted hquote (Column.isIdentifierPath_of_isIdentifier hcolumn)
      · -- Neither quoting by segments nor quoting of paths touches `*`.
        have hall : Column.isIdentifierPath "*" = false := by
          by_contra hpath
          obtain ⟨c, cs, hchars, hstart⟩ :=
            Column.exists_of_isIdentifierPath (Bool.not_eq_false _ ▸ hpath)
          cases hchars
          exact absurd hstart (by decide)
        rw [s.identifier_of_unquoted (.inr hall), hquoting]
        rfl
    rw [s.identifier_of_quoted hquote (Column.isIdentifierPath_append_dot hname hcolumn),
      s.identifier_of_quoted hquote (Column.isIdentifierPath_of_isIdentifier hname), hlast,
      hquoting, quotedName_append_dot _ _ (hname.notMem (by decide))]

end Style

end SqlSelect
