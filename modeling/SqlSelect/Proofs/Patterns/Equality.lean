import SqlSelect.Criterion.Writer
import SqlSelect.Proofs.Patterns.Translation

/-!
# `SqlSelect.Proofs.Patterns.Equality`: patterns that are compared for equality

A pattern without wildcards is not matched but compared with its literal. The literal is the text
that the pattern in the form of SQL matches if every backslash in it escapes a wildcard. Any other
backslash is a character of the literal, whereas in the pattern it escapes what stands behind it.
One such backslash, and no text is equal to the literal and matches the pattern as well.

* `LikePattern.literal_agrees_iff`: when equality is what LIKE would have been.
* `LikePattern.literal_of_path`: paths of files, for which it is not.
-/

set_option autoImplicit false

namespace SqlSelect.LikePattern

/-- What LIKE, or NOT LIKE, says of a text and a pattern in the form of SQL. -/
def holdsByPattern (negated : Bool) (p : LikePattern) (s : String) : Bool :=
  sqlAccepts p.pattern s.toList != negated

/-- What `=`, or `<>`, says of a text and the literal of a pattern. -/
def holdsByLiteral (negated : Bool) (p : LikePattern) (s : String) : Bool :=
  (s == String.ofList p.literal) != negated

/-- The literal matches the pattern exactly if backslashes only escape wildcards. -/
theorem sqlAccepts_literal_iff {p : String} (hnone : (ofText p).hasWildcard = false) :
    sqlAccepts (ofText p).pattern (ofText p).literal = true ↔
      escapesWildcards p.toList = true :=
  (sqlAccepts_iff_spelled? hnone _).trans (spelled?_eq_literal_iff hnone)

/-- A pattern without wildcards is compared for equality with its literal. In the form of SQL it
matches the text that is left without the backslashes that escape. For all texts the two are the
same, with NOT LIKE and `<>` as well, exactly if every backslash escapes a wildcard; and otherwise
the text that is equal does not match. -/
theorem literal_agrees_iff {p : String} (hnone : (ofText p).hasWildcard = false) :
    (∀ w ignoreCase column negated, Test.writePattern w ignoreCase column negated p
        = Test.writeValue w ignoreCase column (Test.equality negated)
          (.string (String.ofList (ofText p).literal))) ∧
      (∀ s : String, holdsByPattern false (ofText p) s = true ↔
        spelled? p.toList = some s.toList) ∧
      (∀ negated, (∀ s, holdsByLiteral negated (ofText p) s = holdsByPattern negated (ofText p) s) ↔
        escapesWildcards p.toList = true) ∧
      (escapesWildcards p.toList = false → ∀ s, holdsByLiteral false (ofText p) s = true →
        holdsByPattern false (ofText p) s = false) := by
  refine ⟨?_, ?_, ?_, ?_⟩
  · intro w ignoreCase column negated
    rw [Test.writePattern, hnone]
    rfl
  · intro s
    rw [holdsByPattern, Bool.bne_false]
    exact sqlAccepts_iff_spelled? hnone s.toList
  · intro negated
    simp only [holdsByLiteral, holdsByPattern, Bool.bne_left_inj]
    constructor
    · -- The literal is equal to itself, so it is the text to try.
      intro hsame
      have hliteral := hsame (String.ofList (ofText p).literal)
      rw [String.toList_ofList, beq_self_eq_true] at hliteral
      exact (sqlAccepts_literal_iff hnone).mp hliteral.symm
    · intro hescapes s
      rw [Bool.eq_iff_iff, beq_iff_eq]
      exact (sqlAccepts_iff_eq_literal hescapes hnone s).symm
  · intro hidle s hequal
    rw [holdsByLiteral, Bool.bne_false, beq_iff_eq] at hequal
    rw [holdsByPattern, Bool.bne_false, hequal, String.toList_ofList, Bool.eq_false_iff]
    intro hmatches
    rw [(sqlAccepts_literal_iff hnone).mp hmatches] at hidle
    cases hidle

/-- Escaped wildcards only. -/
theorem literal_agrees_iff_escaped :
    (ofText "50\\% \\*").hasWildcard = false ∧
      String.ofList (ofText "50\\% \\*").literal = "50% *" ∧
      ∀ negated s, holdsByLiteral negated (ofText "50\\% \\*") s
        = holdsByPattern negated (ofText "50\\% \\*") s := by
  have hnone : (ofText "50\\% \\*").hasWildcard = false := by decide +kernel
  have hescapes : escapesWildcards "50\\% \\*".toList = true := by decide +kernel
  refine ⟨hnone, by decide +kernel, ?_⟩
  intro negated
  exact ((literal_agrees_iff hnone).2.2.1 negated).mpr hescapes

/-- A path is equal to its literal and does not match its pattern, which matches another text. With
a backslash that is written twice, it is the text with one that matches, and with a backslash at
the end there is none. -/
theorem literal_of_path :
    ((ofText "C:\\temp").hasWildcard = false ∧
      holdsByLiteral false (ofText "C:\\temp") "C:\\temp" = true ∧
      holdsByPattern false (ofText "C:\\temp") "C:\\temp" = false ∧
      holdsByPattern false (ofText "C:\\temp") "C:temp" = true) ∧
    ((ofText "a\\\\b").hasWildcard = false ∧
      holdsByLiteral false (ofText "a\\\\b") "a\\b" = false ∧
      holdsByPattern false (ofText "a\\\\b") "a\\b" = true) ∧
    (ofText "dir\\").hasWildcard = false ∧
      holdsByLiteral false (ofText "dir\\") "dir\\" = true ∧
      holdsByPattern false (ofText "dir\\") "dir\\" = false := by
  decide +kernel

end SqlSelect.LikePattern
