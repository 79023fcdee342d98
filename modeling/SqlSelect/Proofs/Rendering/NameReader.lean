import SqlSelect.Dialect.Backend
import SqlSelect.Proofs.Literals.Reader

/-!
# `SqlSelect.Proofs.Rendering.NameReader`: quoted names are read back

A product reads a dotted name from left to right, segment by segment. A segment is a bare `*`, or it
starts with an opening quote and goes on to the first closing quote that is not doubled, which is how
quoted text of any kind is read. What `Dialect.quoteIdentifier` writes is read as the segments of the
name, to its end, whatever quotes and dots there are in the name.

* `Text.segments_eq_splitOn`: the segments of a text.
* `Dialect.readSegment?_quoteSegment`: a segment is read back wherever it stands.
* `Dialect.readName?_intercalate`: segments with dots between them.
* `Backend.readName?_quoteIdentifier`: the names of the built-in dialects.
-/

set_option autoImplicit false

namespace SqlSelect

open Text

/-- The segments of a text are those that the library splits it into. -/
theorem Text.segments_eq_splitOn (c : Char) (cs : List Char) : segments c cs = cs.splitOn c := by
  induction cs with
  | nil => rfl
  | cons d cs ih =>
    rw [segments, List.splitOn, List.splitOnP_cons_eq_if_modifyHead, ← List.splitOn, ← ih]
    by_cases hd : d = c
    · rw [if_pos hd, if_pos (beq_iff_eq.mpr hd)]
    · obtain ⟨first, rest, hsegments⟩ := List.exists_cons_of_ne_nil (segments_ne_nil c cs)
      rw [if_neg hd, if_neg (by simpa using hd), hsegments]
      rfl

namespace Dialect

/-- The rules of text between the quotes of a name. -/
def nameQuoting (d : Dialect) : Quoting where
  close := d.closeQuote
  escape := none
  escape_ne := nofun

/-- Reads a segment of a name: the segment, and what stands behind it. -/
def readSegment? (d : Dialect) : List Char → Option (List Char × List Char)
  | [] => none
  | c :: rest =>
    if c = '*' then some (['*'], rest)
    else if c = d.openQuote then d.nameQuoting.read? rest
    else none

variable (d : Dialect)

/-- A segment takes up a character, so reading a name comes to an end. -/
theorem length_lt_of_readSegment? {cs segment rest : List Char}
    (h : d.readSegment? cs = some (segment, rest)) : rest.length < cs.length := by
  cases cs with
  | nil => cases h
  | cons c cs =>
    rw [readSegment?] at h
    split at h
    · cases h
      exact Nat.lt_succ_self _
    · split at h
      · exact Nat.lt_succ_of_lt (Quoting.length_lt_of_read? h)
      · cases h

/-- Reads a whole text as the segments of a name, with dots between them. -/
def readName? (d : Dialect) (cs : List Char) : Option (List (List Char)) :=
  match _h : d.readSegment? cs with
  | some (segment, []) => some [segment]
  | some (segment, '.' :: rest) => (d.readName? rest).map (segment :: ·)
  | _ => none
termination_by cs.length
decreasing_by
  have := d.length_lt_of_readSegment? _h
  simp only [List.length_cons] at this
  omega

variable {d}

/-- The last segment is the end of a name. -/
theorem readName?_of_end {cs segment : List Char} (h : d.readSegment? cs = some (segment, [])) :
    d.readName? cs = some [segment] := by
  rw [readName?]
  split
  · rename_i hread
    rw [h] at hread
    cases hread
    rfl
  · rename_i hread
    rw [h] at hread
    cases hread
  · rename_i hend _
    exact absurd h (hend segment)

/-- Behind a dot the name goes on with another segment. -/
theorem readName?_of_dot {cs segment rest : List Char}
    (h : d.readSegment? cs = some (segment, '.' :: rest)) :
    d.readName? cs = (d.readName? rest).map (segment :: ·) := by
  rw [readName?]
  split
  · rename_i hread
    rw [h] at hread
    cases hread
  · rename_i hread
    rw [h] at hread
    cases hread
    rfl
  · rename_i hdot
    exact absurd h (hdot segment rest)

/-! ### What is written is read -/

/-- Doubling the closing quote is how quoted text of this kind is written. -/
theorem doubleChar_closeQuote (d : Dialect) (cs : List Char) :
    doubleChar d.closeQuote cs = d.nameQuoting.double cs := by
  rw [doubleChar, Quoting.double]
  congr 1
  funext c
  simp [Quoting.IsSpecial, nameQuoting]

/-- A segment is read back, and what stands behind it is left, unless that is a quote that could
double the closing one. -/
theorem readSegment?_quoteSegment (hopen : d.openQuote ≠ '*') (segment : List Char)
    {behind : List Char} (hbehind : behind.head? ≠ some d.closeQuote) :
    d.readSegment? (d.quoteSegment segment ++ behind) = some (segment, behind) := by
  unfold quoteSegment quotedSegment
  split
  · rename_i hstar
    subst hstar
    rfl
  · have hread := Quoting.read?_double (r := d.nameQuoting) segment hbehind
    rw [← doubleChar_closeQuote] at hread
    rw [List.append_assoc, List.cons_append, readSegment?, if_neg hopen, if_pos rfl]
    exact hread

/-- Segments are read back, whatever they hold. -/
theorem readName?_intercalate (hopen : d.openQuote ≠ '*') (hclose : d.closeQuote ≠ '.')
    {parts : List (List Char)} (hne : parts ≠ []) :
    d.readName? (['.'].intercalate (parts.map d.quoteSegment)) = some parts := by
  induction parts with
  | nil => exact absurd rfl hne
  | cons part parts ih =>
    cases parts with
    | nil =>
      have hread : d.readSegment? (d.quoteSegment part ++ []) = some (part, []) :=
        readSegment?_quoteSegment hopen part (by simp)
      rw [List.append_nil] at hread
      rw [List.map_singleton, List.intercalate_singleton]
      exact readName?_of_end hread
    | cons next parts =>
      -- Behind this segment stands a dot, which cannot double its closing quote.
      have hbehind : ('.' :: ['.'].intercalate ((next :: parts).map d.quoteSegment)).head?
          ≠ some d.closeQuote := by
        simpa using Ne.symm hclose
      have hread := readSegment?_quoteSegment hopen part hbehind
      have hrest := ih (List.cons_ne_nil _ _)
      rw [List.map_cons, List.map_cons, List.intercalate_cons_cons, List.append_assoc,
        List.singleton_append, ← List.map_cons, readName?_of_dot hread, hrest]
      rfl

end Dialect

/-! ### The built-in dialects -/

namespace Backend

/-- No built-in dialect quotes names with the sign that stands for all columns. -/
theorem openQuote_ne_star (b : Backend) : b.dialect.openQuote ≠ '*' := by
  cases b <;> decide

/-- Nor with a dot. -/
theorem closeQuote_ne_dot (b : Backend) : b.dialect.closeQuote ≠ '.' := by
  cases b <;> decide

/-- So the segments of every name are read back from its quoted form. -/
theorem readName?_quoted (b : Backend) (name : String) :
    b.dialect.readName? (b.dialect.quoteIdentifier name).toList
      = some (segments '.' name.toList) := by
  rw [b.quoteIdentifier_dialect, quotedName, String.toList_ofList]
  exact Dialect.readName?_intercalate b.openQuote_ne_star b.closeQuote_ne_dot
    (segments_ne_nil '.' _)

/-- A quoted name is read as the segments of the name, up to its end, in every built-in dialect. So
different names look different between quotes. No segment ends before its own closing quote, with
whatever follows it but another closing quote. -/
theorem readName?_quoteIdentifier (b : Backend) :
    (∀ name : String,
      b.dialect.readName? (b.dialect.quoteIdentifier name).toList
        = some (name.toList.splitOn '.')) ∧
      Function.Injective b.dialect.quoteIdentifier ∧
      ∀ segment behind : List Char, behind.head? ≠ some b.dialect.closeQuote →
        b.dialect.readSegment? (b.dialect.quoteSegment segment ++ behind)
          = some (segment, behind) := by
  refine ⟨?_, ?_, ?_⟩
  · intro name
    rw [readName?_quoted, segments_eq_splitOn]
  · intro name other heq
    -- What is read back is the segments, and they determine the name.
    have hread := b.readName?_quoted name
    rw [heq, readName?_quoted, Option.some.injEq] at hread
    rw [← String.toList_inj, ← intercalate_segments '.' name.toList, ← hread,
      intercalate_segments]
  · intro segment behind hbehind
    exact Dialect.readSegment?_quoteSegment b.openQuote_ne_star segment hbehind

/-- A name with both kinds of brackets in it, an empty segment and a `*`. The condition behind it is
left. -/
theorem readName?_quoteIdentifier_brackets :
    msSql.dialect.quoteIdentifier "a]]b..[c.*" = "[a]]]]b].[].[[c].*" ∧
      msSql.dialect.readName? "[a]]]]b].[].[[c].*".toList
        = some ["a]]b".toList, [], "[c".toList, ['*']] ∧
      "=1".toList.head? ≠ some msSql.dialect.closeQuote ∧
      msSql.dialect.readSegment? "[c]]]=1".toList = some ("c]".toList, "=1".toList) := by
  have hquoted : msSql.dialect.quoteIdentifier "a]]b..[c.*" = "[a]]]]b].[].[[c].*" := by
    decide +kernel
  have hsegments : "a]]b..[c.*".toList.splitOn '.'
      = ["a]]b".toList, [], "[c".toList, ['*']] := by decide +kernel
  have hbehind : "=1".toList.head? ≠ some msSql.dialect.closeQuote := by decide
  have hread := (readName?_quoteIdentifier msSql).1 "a]]b..[c.*"
  rw [hquoted, hsegments] at hread
  exact ⟨hquoted, hread, hbehind,
    (readName?_quoteIdentifier msSql).2.2 "c]".toList "=1".toList hbehind⟩

end Backend

end SqlSelect
