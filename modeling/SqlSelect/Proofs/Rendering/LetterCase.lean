import SqlSelect.Proofs.Rendering.Comparisons
import SqlSelect.Proofs.Rendering.Statement

/-!
# `SqlSelect.Proofs.Rendering.LetterCase`: two flags for letter case

Criteria have a flag that lets them ignore case, and so does each of their comparisons. The flag of
a comparison also folds two columns; that of the criteria leaves them alone, since a comparison of
two columns is mostly the key of a join. On every other comparison the two do the same, whichever
way it is written: as a list, as a native pattern or as a pattern without wildcards.

* `Comparison.foldingTexts`: the comparison whose own flag does what the flag of the criteria does.
* `Criteria.clauses_foldingTexts`: with it, the clauses are the same, or the same error.
* `Criteria.build_setIgnoreCase`: the same for the statement and what it binds, in either mode.
-/

set_option autoImplicit false

namespace SqlSelect

namespace Comparison

/-- The comparison with its own flag set, except where it compares two columns. -/
def foldingTexts (c : Comparison) : Comparison :=
  if c.comparesColumns then c else { c with ignoreCase := true }

/-- A flag changes no column. -/
theorem columns_foldingTexts (c : Comparison) : c.foldingTexts.columns = c.columns := by
  unfold foldingTexts
  split
  · rfl
  · rfl

/-- The two flags are joined before they are asked for, except by a comparison of two columns, which
asks for its own one. -/
theorem sql_foldingTexts (s : Style) (c : Comparison) :
    c.foldingTexts.sql { s with ignoreCase := false } = c.sql { s with ignoreCase := true } := by
  unfold foldingTexts
  split
  · -- Two columns are folded by their own flag alone, and that is as it was.
    rename_i hcolumns
    obtain ⟨column, test, ignoreCase⟩ := c
    obtain ⟨r, other, htest⟩ := exists_of_comparesColumns hcolumns
    cases htest
    rfl
  · rename_i hcolumns
    refine sql_congr (Bool.eq_false_iff.mpr hcolumns) rfl rfl rfl ?_
    show (true || false) = (c.ignoreCase || true)
    rw [Bool.or_true, Bool.true_or]

end Comparison

namespace Criteria

variable (k : Criteria) (s : Style)

/-- Setting the flags of comparisons changes no column, so the tables stay in their places. -/
theorem sourceTables_foldingTexts :
    (k.mapComparisons Comparison.foldingTexts).sourceTables = k.sourceTables := by
  have htargets : (k.mapComparisons Comparison.foldingTexts).joinTargets = k.joinTargets := by
    show (k.joins.map (Join.mapComparisons _)).map Join.table = k.joins.map Join.table
    rw [List.map_map]
    rfl
  have hsources : (k.mapComparisons Comparison.foldingTexts).joinSources = k.joinSources := by
    -- Ignoring letter case changes how a column is compared and not which one it is.
    have hcolumns : ∀ join : Join,
        ((join.mapComparisons Comparison.foldingTexts).condition.map Criterion.columnRefs).getD []
          = (join.condition.map Criterion.columnRefs).getD [] := by
      intro join
      cases hcondition : join.condition with
      | none => simp [Join.mapComparisons, hcondition]
      | some condition =>
        simp [Join.mapComparisons, hcondition,
          Criterion.columnRefs_mapComparisons Comparison.columns_foldingTexts]
    show ((k.joins.map (Join.mapComparisons _)).flatMap _).flatMap _ = _
    rw [List.flatMap_map]
    simp only [hcolumns]
    rfl
  simp only [sourceTables, htargets, hsources]
  rfl

/-- A join is written alike with the flag of the criteria and with the flags of its comparisons. -/
theorem joinEntry_foldingTexts (join : Join) :
    (k.mapComparisons Comparison.foldingTexts).joinEntry { s with ignoreCase := false }
        (join.mapComparisons Comparison.foldingTexts)
      = k.joinEntry { s with ignoreCase := true } join := by
  obtain ⟨joinType, table, condition⟩ := join
  cases condition with
  | none => rfl
  | some condition =>
    have hsql := condition.sql_mapComparisons (Comparison.sql_foldingTexts s)
    simp only [joinEntry, Join.mapComparisons, Option.map_some, hsql]
    rfl

/-- A condition that need not exist. -/
theorem map_sql_foldingTexts (c : Option Criterion) :
    (c.map (Criterion.mapComparisons Comparison.foldingTexts)).map
        (Criterion.sql { s with ignoreCase := false })
      = c.map (Criterion.sql { s with ignoreCase := true }) := by
  cases c with
  | none => rfl
  | some c => exact congrArg some (c.sql_mapComparisons (Comparison.sql_foldingTexts s))

/-- So are all clauses, or both fail with one error. -/
theorem clauses_foldingTexts :
    (k.mapComparisons Comparison.foldingTexts).clauses { s with ignoreCase := false }
      = k.clauses { s with ignoreCase := true } := by
  have hjoins : (k.mapComparisons Comparison.foldingTexts).joins.mapM
        ((k.mapComparisons Comparison.foldingTexts).joinEntry { s with ignoreCase := false })
      = k.joins.mapM (k.joinEntry { s with ignoreCase := true }) := by
    show (k.joins.map (Join.mapComparisons _)).mapM _ = _
    rw [List.mapM_map]
    congr 1
    exact funext (k.joinEntry_foldingTexts s)
  have hfilter := map_sql_foldingTexts s k.predicate
  have hhaving := map_sql_foldingTexts s k.having
  -- Beyond joins and conditions the two sides have the same parts.
  unfold clauses
  rw [sourceTables_foldingTexts, hjoins]
  simp only [mapComparisons, hfilter, hhaving]
  rfl

/-- Criteria that ignore case are written as those in which every comparison ignores case that does
not compare two columns: the same statement with the same values bound, or the same error. This is
so whatever the dialect makes of an expression whose case is ignored. -/
theorem build_setIgnoreCase (d : Dialect) (mode : RenderMode) (quote : Bool) :
    (k.setIgnoreCase true).build d mode quote
      = ((k.mapComparisons Comparison.foldingTexts).setIgnoreCase false).build d mode quote := by
  have hclauses := k.clauses_foldingTexts (k.style d quote)
  have hquery : (k.setIgnoreCase true).query d quote
      = ((k.mapComparisons Comparison.foldingTexts).setIgnoreCase false).query d quote := by
    show (k.clauses { k.style d quote with ignoreCase := true }).bind _
      = ((k.mapComparisons _).clauses { k.style d quote with ignoreCase := false }).bind _
    rw [hclauses]
    rfl
  rw [build_eq, build_eq, hquery]

end Criteria

end SqlSelect
