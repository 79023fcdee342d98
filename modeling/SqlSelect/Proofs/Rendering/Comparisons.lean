import SqlSelect.Criteria.Statement
import SqlSelect.Proofs.Rendering.Writer

/-!
# `SqlSelect.Proofs.Rendering.Comparisons`: changing every comparison of a tree

A flag of the style reaches every comparison of a statement. To say what the flag does is to say
which comparisons would be written in its place, so `Criterion.mapComparisons` changes them one by
one and leaves the groups as they are.

* `Comparison.sql_congr`: what of a comparison and of the style is in the text.
* `Criterion.sql_mapComparisons`: where each changed comparison is written in one style as the old
  one is in another, so is the whole tree.
* `Criterion.columnRefs_mapComparisons`: a change that keeps the columns of each comparison keeps
  those of the tree.
-/

set_option autoImplicit false

namespace SqlSelect

namespace Comparison

/-- Whether the right side is a column. -/
def comparesColumns (c : Comparison) : Bool :=
  match c.test with
  | .relation _ (.column _) => true
  | _ => false

/-- Two columns can only be compared by a relation. -/
theorem exists_of_comparesColumns {c : Comparison} (h : c.comparesColumns = true) :
    ∃ r other, c.test = .relation r (.column other) := by
  unfold comparesColumns at h
  split at h
  · rename_i r other htest
    exact ⟨r, other, htest⟩
  · cases h

/-- A comparison that has no column on its right is written by its test, from the text of its column
and from the two flags for letter case together. -/
theorem sql_congr {s s' : Style} {c c' : Comparison} (hcolumns : c.comparesColumns = false)
    (htest : c'.test = c.test) (hdialect : s'.dialect = s.dialect)
    (hcolumn : s'.identifier c'.column = s.identifier c.column)
    (hflag : (c'.ignoreCase || s'.ignoreCase) = (c.ignoreCase || s.ignoreCase)) :
    c'.sql s' = c.sql s := by
  obtain ⟨dialect, quoteIdentifiers, ignoreCase⟩ := s
  obtain ⟨dialect', quoteIdentifiers', ignoreCase'⟩ := s'
  obtain ⟨column, test, own⟩ := c
  obtain ⟨column', test', own'⟩ := c'
  cases hdialect
  cases htest
  cases test with
  | nullness negated =>
    show Sql.ofText (_ ++ nullTestSql negated) = Sql.ofText (_ ++ nullTestSql negated)
    rw [hcolumn]
  | raw sql => rfl
  | membership negated values =>
    show Test.membershipSql _ (own' || ignoreCase') _ negated values
      = Test.membershipSql _ (own || ignoreCase) _ negated values
    rw [hcolumn, hflag]
    rfl
  | relation r right =>
    cases right with
    | column other => cases hcolumns
    | value v =>
      cases hpattern : r.isPattern with
      | false =>
        rw [sql_of_isPattern_eq_false hpattern, sql_of_isPattern_eq_false hpattern, hcolumn, hflag]
        rfl
      | true =>
        -- A pattern is written in a way of its own where it is a text.
        cases r with
        | like | notLike => cases v <;> (simp only [sql, hcolumn, hflag]; rfl)
        | _ => cases hpattern

end Comparison

namespace Criterion

variable {f : Comparison → Comparison} {s s' : Style}

mutual

/-- The criterion with another comparison in the place of each one. -/
def mapComparisons (f : Comparison → Comparison) : Criterion → Criterion
  | comparison c => comparison (f c)
  | group conjunction children => group conjunction (mapComparisonsAll f children)

/-- The criteria with another comparison in the place of each one. -/
def mapComparisonsAll (f : Comparison → Comparison) : List Criterion → List Criterion
  | [] => []
  | child :: children => mapComparisons f child :: mapComparisonsAll f children

end

mutual

/-- Changing comparisons changes no group, so the parentheses stay where they are. -/
theorem sqlWithin_mapComparisons (h : ∀ c, (f c).sql s' = c.sql s) (parent : Option Conjunction) :
    (c : Criterion) → (c.mapComparisons f).sqlWithin s' parent = c.sqlWithin s parent
  | comparison c => by
    rw [mapComparisons, sqlWithin, sqlWithin]
    exact h c
  | group conjunction [] => rfl
  | group _ [only] => by
    rw [mapComparisons, mapComparisonsAll, mapComparisonsAll, sqlWithin, sqlWithin]
    exact sqlWithin_mapComparisons h parent only
  | group conjunction (first :: second :: rest) => by
    have hall := sqlOfAll_mapComparisonsAll h conjunction (first :: second :: rest)
    simp only [mapComparisonsAll] at hall
    simp only [mapComparisons, mapComparisonsAll, sqlWithin, hall]

/-- The same for the children of a group. -/
theorem sqlOfAll_mapComparisonsAll (h : ∀ c, (f c).sql s' = c.sql s) (parent : Conjunction) :
    (children : List Criterion) →
      sqlOfAll s' parent (mapComparisonsAll f children) = sqlOfAll s parent children
  | [] => rfl
  | child :: children => by
    rw [mapComparisonsAll, sqlOfAll, sqlOfAll, sqlWithin_mapComparisons h (some parent) child,
      sqlOfAll_mapComparisonsAll h parent children]

end

/-- No comparison is written differently, and the groups and their parentheses are the same. -/
theorem sql_mapComparisons (h : ∀ c, (f c).sql s' = c.sql s) (c : Criterion) :
    (c.mapComparisons f).sql s' = c.sql s :=
  sqlWithin_mapComparisons h none c

mutual

/-- The comparisons of a changed tree are the changed ones, in their order. -/
theorem comparisons_mapComparisons :
    (c : Criterion) → (c.mapComparisons f).comparisons = c.comparisons.map f
  | comparison _ => rfl
  | group _ children => comparisonsOfAll_mapComparisonsAll children

/-- The same for the children of a group. -/
theorem comparisonsOfAll_mapComparisonsAll : (children : List Criterion) →
    comparisonsOfAll (mapComparisonsAll f children) = (comparisonsOfAll children).map f
  | [] => rfl
  | child :: children => by
    rw [mapComparisonsAll, comparisonsOfAll, comparisonsOfAll, List.map_append,
      comparisons_mapComparisons child, comparisonsOfAll_mapComparisonsAll children]

end

/-- A change that keeps columns leaves the tables of a tree as they are. -/
theorem columnRefs_mapComparisons (h : ∀ c, (f c).columns = c.columns) (c : Criterion) :
    (c.mapComparisons f).columnRefs = c.columnRefs := by
  rw [columnRefs, columnRefs, comparisons_mapComparisons, List.flatMap_map]
  simp only [h]

mutual

/-- `Criterion.ignoreCase` sets the flag of every comparison, also of one of two columns. -/
theorem ignoreCase_eq_mapComparisons : (c : Criterion) →
    c.ignoreCase = c.mapComparisons fun c => { c with ignoreCase := true }
  | comparison _ => rfl
  | group conjunction children =>
    congrArg (group conjunction) (ignoreCaseAll_eq_mapComparisonsAll children)

/-- The same for the children of a group. -/
theorem ignoreCaseAll_eq_mapComparisonsAll : (children : List Criterion) →
    ignoreCaseAll children = mapComparisonsAll (fun c => { c with ignoreCase := true }) children
  | [] => rfl
  | child :: children => by
    rw [ignoreCaseAll, mapComparisonsAll, ignoreCase_eq_mapComparisons child,
      ignoreCaseAll_eq_mapComparisonsAll children]

end

end Criterion

/-- The join with another comparison in the place of each one of its condition. -/
def Join.mapComparisons (f : Comparison → Comparison) (join : Join) : Join :=
  { join with condition := join.condition.map (Criterion.mapComparisons f) }

/-- The criteria with another comparison in the place of each one of the predicate, HAVING and the
join conditions. -/
def Criteria.mapComparisons (f : Comparison → Comparison) (k : Criteria) : Criteria :=
  { k with
    joins := k.joins.map (Join.mapComparisons f)
    predicate := k.predicate.map (Criterion.mapComparisons f)
    having := k.having.map (Criterion.mapComparisons f) }

end SqlSelect
