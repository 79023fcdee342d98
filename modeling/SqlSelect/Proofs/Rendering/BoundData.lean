import SqlSelect.Proofs.Rendering.Statement

/-!
# `SqlSelect.Proofs.Rendering.BoundData`: bound data does not reach the text

Two criteria are alike if they differ only in data: bindable values stand for bindable values, texts
for texts, and a pattern with wildcards for a pattern with wildcards. A statement with placeholders
does not tell alike criteria apart.

`Sql.outline` is all that such a statement shows of SQL text: the text, with NULL in the place of
each value, and whether the case of the value is ignored. Every function that writes a part of a
condition looks at a value in a few ways only, and `Alike` keeps the answers.

* `Criterion.sameOutline_sql`: alike criteria have one outline, by induction on the likeness.
* `Criteria.clauses_alike`: so do the clauses of alike criteria, and they fail together.
* `Criteria.parameterizedWith_alike`: the statements with placeholders are the same text.
-/

set_option autoImplicit false

namespace SqlSelect

section Related

variable {α β : Type} {R : α → α → Prop} {xs ys : List α}

/-- Two lists of related items have the same image under a function that does not tell related items
apart. -/
theorem map_eq_map_of_forall₂ {f : α → β} (h : List.Forall₂ R xs ys)
    (hf : ∀ x y, R x y → f x = f y) : xs.map f = ys.map f := by
  induction h with
  | nil => rfl
  | cons hfirst _ ih => rw [List.map_cons, List.map_cons, hf _ _ hfirst, ih]

/-- Two lists answer a question alike if their items do, one by one. -/
theorem any_eq_any_of_forall₂ {p : α → Bool} (h : List.Forall₂ R xs ys)
    (hp : ∀ x y, R x y → p x = p y) : xs.any p = ys.any p := by
  have hmap : xs.map p = ys.map p := map_eq_map_of_forall₂ h hp
  show xs.any (id ∘ p) = ys.any (id ∘ p)
  rw [← List.any_map, hmap, List.any_map]

/-- Lists that are related item by item are empty together. -/
theorem isEmpty_eq_of_forall₂ (h : List.Forall₂ R xs ys) : xs.isEmpty = ys.isEmpty := by
  cases h <;> rfl

/-- Related options have one image under a function that does not tell their values apart. -/
theorem map_eq_map_of_rel {f : α → β} {x y : Option α} (h : Option.Rel R x y)
    (hf : ∀ x y, R x y → f x = f y) : x.map f = y.map f := by
  cases h with
  | none => rfl
  | some h => exact congrArg some (hf _ _ h)

end Related

/-! ### Outlines -/

namespace Sql

/-- The text with NULL in the place of each value. -/
def outline (s : Sql) : Sql :=
  s.map fun
    | .text x => .text x
    | .bound _ fold => .bound .null fold

/-- An outline is drawn piece by piece. -/
@[simp] theorem outline_append (s t : Sql) : (s ++ t).outline = s.outline ++ t.outline :=
  List.map_append

/-- There is a place in the outline for each value. -/
theorem length_params_outline (s : Sql) : s.outline.params.length = s.params.length := by
  induction s with
  | nil => rfl
  | cons fragment s ih =>
    cases fragment with
    | text x => exact ih
    | bound v fold => exact congrArg Nat.succ ih

/-- A placeholder does not depend on its value, so it is in the outline as well. -/
theorem withPlaceholders_outline (d : Dialect) (used : Nat) (s : Sql) :
    s.outline.withPlaceholders d used = s.withPlaceholders d used := by
  induction s generalizing used with
  | nil => rfl
  | cons fragment s ih =>
    cases fragment with
    | text x => exact congrArg (x ++ ·) (ih used)
    | bound v fold =>
      exact congrArg (d.foldedText fold (d.placeholder (used + 1)) ++ ·) (ih (used + 1))

/-- Two texts that differ at most in their values. -/
def SameOutline (s s' : Sql) : Prop :=
  s.outline = s'.outline

namespace SameOutline

variable {s s' t t' : Sql}

/-- Text has its own outline. -/
theorem refl (s : Sql) : s.SameOutline s := rfl

/-- Two texts of one outline each may stand beside each other. -/
theorem append (h : s.SameOutline s') (ht : t.SameOutline t') :
    (s ++ t).SameOutline (s' ++ t') := by
  show (s ++ t).outline = (s' ++ t').outline
  rw [outline_append, outline_append, h, ht]

/-- Parentheses are text. -/
theorem parenthesized (h : s.SameOutline s') : s.parenthesized.SameOutline s'.parenthesized :=
  ((refl _).append h).append (refl _)

/-- Items of the same outlines stand in the same places of a list. -/
theorem joinWith (separator : String) {items items' : List Sql}
    (h : List.Forall₂ SameOutline items items') :
    (Sql.joinWith separator items).SameOutline (Sql.joinWith separator items') := by
  induction h with
  | nil => exact refl _
  | cons hfirst hrest ih =>
    -- A separator follows the first item unless it is the only one.
    cases hrest with
    | nil => exact hfirst
    | cons _ _ => exact (hfirst.append (refl _)).append ih

/-- The number of values is the number of places in the outline. -/
theorem length_params_eq (h : s.SameOutline s') : s.params.length = s'.params.length := by
  rw [← length_params_outline s, ← length_params_outline s', h]

/-- The placeholders go into the places of the outline. -/
theorem withPlaceholders_eq (d : Dialect) (used : Nat) (h : s.SameOutline s') :
    s.withPlaceholders d used = s'.withPlaceholders d used := by
  rw [← withPlaceholders_outline d used s, ← withPlaceholders_outline d used s', h]

/-- The numbers of the placeholders go on from join to join in the same way. -/
theorem joinsWithPlaceholders_eq (d : Dialect) (used : Nat) {items items' : List Sql}
    (h : List.Forall₂ SameOutline items items') :
    Query.joinsWithPlaceholders d used items = Query.joinsWithPlaceholders d used items' := by
  induction h generalizing used with
  | nil => rfl
  | cons hfirst _ ih =>
    rw [Query.joinsWithPlaceholders, Query.joinsWithPlaceholders, hfirst.withPlaceholders_eq d used,
      hfirst.length_params_eq, ih]

end SameOutline

end Sql

/-! ### Likeness -/

/-- The same value, or two that can be bound and are both texts or both none. -/
inductive SqlValue.Alike : SqlValue → SqlValue → Prop
  | same (v : SqlValue) : Alike v v
  | bound {v v' : SqlValue} (h : v.isBindable = true) (h' : v'.isBindable = true)
      (htext : v.isText = v'.isText) : Alike v v'

/-- The same test up to alike values. A pattern is alike to one with wildcards if it has
wildcards. -/
inductive Test.Alike : Test → Test → Prop
  | same (t : Test) : Alike t t
  | membership (negated : Bool) {values values' : List SqlValue}
      (h : List.Forall₂ SqlValue.Alike values values') :
      Alike (.membership negated values) (.membership negated values')
  | value {r : Relation} (hr : r.isPattern = false) {v v' : SqlValue} (h : v.Alike v') :
      Alike (.relation r (.value v)) (.relation r (.value v'))
  | pattern {r : Relation} (hr : r.isPattern = true) {p p' : String}
      (h : (LikePattern.ofText p).hasWildcard = (LikePattern.ofText p').hasWildcard) :
      Alike (.relation r (.value (.string p))) (.relation r (.value (.string p')))

mutual

/-- The same tree up to alike tests. -/
inductive Criterion.Alike : Criterion → Criterion → Prop
  | comparison (column : String) {test test' : Test} (ignoreCase : Bool)
      (h : test.Alike test') :
      Alike (.comparison ⟨column, test, ignoreCase⟩) (.comparison ⟨column, test', ignoreCase⟩)
  | group (conjunction : Conjunction) {children children' : List Criterion}
      (h : AllAlike children children') :
      Alike (.group conjunction children) (.group conjunction children')

/-- Two lists of criteria that are alike place by place. -/
inductive Criterion.AllAlike : List Criterion → List Criterion → Prop
  | nil : AllAlike [] []
  | cons {child child' : Criterion} {children children' : List Criterion}
      (h : child.Alike child') (hs : AllAlike children children') :
      AllAlike (child :: children) (child' :: children')

end

/-- The same join up to alike conditions. -/
structure Join.Alike (join join' : Join) : Prop where
  joinType : join.joinType = join'.joinType
  table : join.table = join'.table
  condition : Option.Rel Criterion.Alike join.condition join'.condition

/-- The same criteria up to alike conditions. -/
structure Criteria.Alike (k k' : Criteria) : Prop where
  joins : List.Forall₂ Join.Alike k.joins k'.joins
  predicate : Option.Rel Criterion.Alike k.predicate k'.predicate
  having : Option.Rel Criterion.Alike k.having k'.having
  others : k' = { k with joins := k'.joins, predicate := k'.predicate, having := k'.having }

/-! ### What is seen of a value -/

namespace SqlValue.Alike

/-- Two texts are alike, whatever they say. -/
theorem strings (x y : String) : (string x).Alike (string y) :=
  .bound rfl rfl rfl

variable {v v' : SqlValue}

/-- Alike values are texts together. This decides on letter case. -/
theorem isText_eq (h : v.Alike v') : v.isText = v'.isText := by
  cases h with
  | same => rfl
  | bound _ _ htext => exact htext

/-- And they are NULL together, which decides on the form of a list. -/
theorem isNull_eq (h : v.Alike v') : v.isNull = v'.isNull := by
  cases h with
  | same => rfl
  | bound h h' _ =>
    -- NULL cannot be bound.
    have hnull : ∀ v : SqlValue, v.isBindable = true → v.isNull = false := by
      intro v hv
      cases v <;> first | rfl | cases hv
    rw [hnull v h, hnull v' h']

/-- What is seen of a value that is bound is whether its case is ignored. -/
theorem sameOutline_value (h : v.Alike v') (s : Style) (fold : Bool) :
    (s.value fold v).SameOutline (s.value fold v') := by
  cases h with
  | same => exact .refl _
  | bound h h' _ =>
    show (Sql.ofValue s.dialect fold v).outline = (Sql.ofValue s.dialect fold v').outline
    simp [Sql.ofValue, h, h', Sql.outline]

end SqlValue.Alike

namespace Test

variable {s : Style} {values values' : List SqlValue}

/-- The left side of a relation and its operator are text. -/
theorem sameOutline_relationSql {right right' : Sql} (h : right.SameOutline right') (fold : Bool)
    (left operator : String) :
    (relationSql s fold left operator right).SameOutline
      (relationSql s fold left operator right') :=
  (Sql.SameOutline.refl _).append h

/-- A comparison shows whether its value is a text, since only the case of texts is ignored. -/
theorem sameOutline_valueSql {v v' : SqlValue} (h : v.Alike v') (ignoreCase : Bool)
    (column : String) (r : Relation) :
    (valueSql s ignoreCase column r v).SameOutline (valueSql s ignoreCase column r v') := by
  unfold valueSql
  rw [h.isText_eq]
  exact sameOutline_relationSql (h.sameOutline_value s _) _ _ _

/-- A pattern shows whether it has wildcards, since it is compared for equality if it has none. -/
theorem sameOutline_patternSql {p p' : String}
    (h : (LikePattern.ofText p).hasWildcard = (LikePattern.ofText p').hasWildcard)
    (ignoreCase : Bool) (column : String) (negated : Bool) :
    (patternSql s ignoreCase column negated p).SameOutline
      (patternSql s ignoreCase column negated p') := by
  unfold patternSql
  cases hp : (LikePattern.ofText p').hasWildcard with
  | false =>
    simp only [h, hp, Bool.not_false, if_true]
    exact sameOutline_valueSql (.strings _ _) ignoreCase column _
  | true =>
    simp only [h, hp, Bool.not_true, Bool.false_eq_true, if_false]
    have hright := (SqlValue.Alike.strings (String.ofList (LikePattern.ofText p).pattern)
      (String.ofList (LikePattern.ofText p').pattern)).sameOutline_value s
    -- Which operator is written depends on the dialect and on case only.
    cases ignoreCase with
    | false => exact sameOutline_relationSql (hright false) _ _ _
    | true =>
      cases s.dialect.caseInsensitiveLike negated with
      | none => exact sameOutline_relationSql (hright true) _ _ _
      | some native => exact sameOutline_relationSql (hright false) _ _ _

/-- A list shows its length, which of its items are texts, and whether there is a text. -/
theorem sameOutline_listSql (h : List.Forall₂ SqlValue.Alike values values') (ignoreCase : Bool)
    (column : String) (negated : Bool) :
    (listSql s ignoreCase column negated values).SameOutline
      (listSql s ignoreCase column negated values') := by
  -- Letter case is ignored as soon as one value is a text, which alike lists agree on.
  have htext : values.any SqlValue.isText = values'.any SqlValue.isText :=
    any_eq_any_of_forall₂ h fun _ _ hv => hv.isText_eq
  unfold listSql
  rw [htext]
  have hitems : List.Forall₂ Sql.SameOutline
      (values.map fun v => s.value ((ignoreCase && values'.any SqlValue.isText) && v.isText) v)
      (values'.map fun v =>
        s.value ((ignoreCase && values'.any SqlValue.isText) && v.isText) v) := by
    rw [List.forall₂_map_left_iff, List.forall₂_map_right_iff]
    refine h.imp fun v v' hv => ?_
    rw [hv.isText_eq]
    exact hv.sameOutline_value s _
  exact sameOutline_relationSql (Sql.SameOutline.joinWith "," hitems).parenthesized _ _ _

/-- The NULLs of a list are in the same places, so the lists without them are alike too. -/
theorem sameOutline_membershipSql (h : List.Forall₂ SqlValue.Alike values values')
    (ignoreCase : Bool) (column : String) (negated : Bool) :
    (membershipSql s ignoreCase column negated values).SameOutline
      (membershipSql s ignoreCase column negated values') := by
  -- What is written depends on NULLs and on known values being there; both lists agree on that.
  have hnull : values.any SqlValue.isNull = values'.any SqlValue.isNull :=
    any_eq_any_of_forall₂ h fun _ _ hv => hv.isNull_eq
  have hknown : List.Forall₂ SqlValue.Alike (values.filter fun v => !v.isNull)
      (values'.filter fun v => !v.isNull) := by
    refine List.rel_filter ?_ h
    intro v v' hv
    show (!v.isNull) = true ↔ (!v'.isNull) = true
    rw [hv.isNull_eq]
  have hempty := isEmpty_eq_of_forall₂ hknown
  have hlist := sameOutline_listSql (s := s) hknown ignoreCase column negated
  unfold membershipSql
  simp only [hempty, hnull]
  split
  · exact .refl _
  · split
    · exact ((hlist.append (.refl _)).append (.refl _)).parenthesized
    · exact hlist

end Test

/-- Alike tests of one column have one outline. -/
theorem Comparison.sameOutline_sql {test test' : Test} (h : test.Alike test') (s : Style)
    (column : String) (ignoreCase : Bool) :
    (sql s ⟨column, test, ignoreCase⟩).SameOutline (sql s ⟨column, test', ignoreCase⟩) := by
  cases h with
  | same => exact .refl _
  | membership negated h => exact Test.sameOutline_membershipSql h _ _ negated
  | value hr h =>
    rw [sql_of_isPattern_eq_false hr, sql_of_isPattern_eq_false hr]
    exact Test.sameOutline_valueSql h _ _ _
  | @pattern r hr _ _ h =>
    cases r with
    | like => exact Test.sameOutline_patternSql h _ _ false
    | notLike => exact Test.sameOutline_patternSql h _ _ true
    | _ => cases hr

/-- No value is among the columns of a comparison. -/
theorem Comparison.columns_eq {test test' : Test} (h : test.Alike test') (column : String)
    (ignoreCase : Bool) :
    columns ⟨column, test, ignoreCase⟩ = columns ⟨column, test', ignoreCase⟩ := by
  cases h <;> rfl

namespace Criterion

/-! ### What is seen of a condition -/

mutual

/-- Alike criteria have as many children at every node, so their parentheses stand in the same
places. -/
theorem sameOutline_sqlWithin (s : Style) (parent : Option Conjunction) {c c' : Criterion}
    (h : c.Alike c') : (c.sqlWithin s parent).SameOutline (c'.sqlWithin s parent) := by
  match h with
  | .comparison column ignoreCase htest =>
    rw [sqlWithin, sqlWithin]
    exact Comparison.sameOutline_sql htest s column ignoreCase
  | .group conjunction .nil => exact .refl _
  | .group conjunction (.cons honly .nil) =>
    rw [sqlWithin, sqlWithin]
    exact sameOutline_sqlWithin s parent honly
  | .group conjunction (.cons hfirst (.cons hsecond hrest)) =>
    have hitems := Sql.SameOutline.joinWith conjunction.sql
      (sameOutline_sqlOfAll s conjunction (.cons hfirst (.cons hsecond hrest)))
    simp only [sqlWithin]
    -- The parent decides on the parentheses, and it is the same for both.
    cases parent with
    | none => exact hitems
    | some outer =>
      by_cases hsame : outer = conjunction
      · simp only [hsame, if_true]
        exact hitems
      · simp only [hsame, if_false]
        exact hitems.parenthesized

/-- Alike children have the same outlines place by place. -/
theorem sameOutline_sqlOfAll (s : Style) (parent : Conjunction) {cs cs' : List Criterion}
    (h : AllAlike cs cs') :
    List.Forall₂ Sql.SameOutline (sqlOfAll s parent cs) (sqlOfAll s parent cs') := by
  match h with
  | .nil =>
    rw [sqlOfAll]
    exact .nil
  | .cons hfirst hrest =>
    rw [sqlOfAll, sqlOfAll]
    exact .cons (sameOutline_sqlWithin s (some parent) hfirst) (sameOutline_sqlOfAll s parent hrest)

end

/-- The SQL of alike criteria has one outline. -/
theorem sameOutline_sql {c c' : Criterion} (h : c.Alike c') (s : Style) :
    (c.sql s).SameOutline (c'.sql s) :=
  sameOutline_sqlWithin s none h

mutual

/-- Alike criteria refer to the same columns, so their tables are the same. -/
theorem flatMap_columns_comparisons {c c' : Criterion} (h : c.Alike c') :
    c.comparisons.flatMap Comparison.columns = c'.comparisons.flatMap Comparison.columns := by
  match h with
  | .comparison column ignoreCase htest =>
    simp only [comparisons, List.flatMap_singleton]
    exact Comparison.columns_eq htest column ignoreCase
  | .group conjunction hchildren =>
    rw [comparisons, comparisons]
    exact flatMap_columns_comparisonsOfAll hchildren

/-- The same for the children of a group. -/
theorem flatMap_columns_comparisonsOfAll {cs cs' : List Criterion} (h : AllAlike cs cs') :
    (comparisonsOfAll cs).flatMap Comparison.columns
      = (comparisonsOfAll cs').flatMap Comparison.columns := by
  match h with
  | .nil => rfl
  | .cons hfirst hrest =>
    rw [comparisonsOfAll, comparisonsOfAll, List.flatMap_append, List.flatMap_append,
      flatMap_columns_comparisons hfirst, flatMap_columns_comparisonsOfAll hrest]

end

/-- Alike criteria mention the same columns. -/
theorem columnRefs_eq {c c' : Criterion} (h : c.Alike c') : c.columnRefs = c'.columnRefs :=
  flatMap_columns_comparisons h

end Criterion

/-! ### What is seen of a statement -/

namespace Query

/-- The same query up to values. -/
structure SameOutline (q q' : Query Sql) : Prop where
  joins : List.Forall₂ Sql.SameOutline q.joins q'.joins
  filter : Option.Rel Sql.SameOutline q.filter q'.filter
  having : Option.Rel Sql.SameOutline q.having q'.having
  others : q' = { q with joins := q'.joins, filter := q'.filter, having := q'.having }

/-- Joins of one outline bind equally many values. -/
theorem length_flatMap_params_eq {items items' : List Sql}
    (h : List.Forall₂ Sql.SameOutline items items') :
    (items.flatMap Sql.params).length = (items'.flatMap Sql.params).length := by
  rw [List.length_flatMap, List.length_flatMap,
    map_eq_map_of_forall₂ h fun _ _ hitem => hitem.length_params_eq]

/-- So does a condition, or its absence. -/
theorem length_params_condition_eq {condition condition' : Option Sql}
    (h : Option.Rel Sql.SameOutline condition condition') :
    ((condition.map Sql.params).getD []).length = ((condition'.map Sql.params).getD []).length := by
  cases h with
  | none => rfl
  | some h => exact h.length_params_eq

/-- Conditions of one outline are one text with placeholders. -/
theorem map_withPlaceholders_eq {condition condition' : Option Sql}
    (h : Option.Rel Sql.SameOutline condition condition') (d : Dialect) (used : Nat) :
    condition.map (Sql.withPlaceholders d used) = condition'.map (Sql.withPlaceholders d used) :=
  map_eq_map_of_rel h fun _ _ h => h.withPlaceholders_eq d used

variable {q q' : Query Sql}

/-- Queries of one outline are one statement with placeholders: the numbers go on equally from
clause to clause. -/
theorem SameOutline.parameterized_eq (h : q.SameOutline q') (d : Dialect) :
    q.parameterized d = q'.parameterized d := by
  obtain ⟨hjoins, hfilter, hhaving, hothers⟩ := h
  unfold parameterized
  dsimp only
  -- The numbers in WHERE and HAVING go on where the clause in front of them ends.
  rw [Sql.SameOutline.joinsWithPlaceholders_eq d 0 hjoins, length_flatMap_params_eq hjoins,
    length_params_condition_eq hfilter, map_withPlaceholders_eq hfilter,
    map_withPlaceholders_eq hhaving]
  rw [hothers]

/-- And they bind equally many values. -/
theorem SameOutline.length_params_eq (h : q.SameOutline q') :
    q.params.length = q'.params.length := by
  simp only [params, List.length_append]
  rw [length_flatMap_params_eq h.joins, length_params_condition_eq h.filter,
    length_params_condition_eq h.having]

end Query

namespace Criteria

variable {k k' : Criteria}

/-- Alike criteria join the same tables. -/
theorem joinTargets_eq (h : k.Alike k') : k.joinTargets = k'.joinTargets :=
  map_eq_map_of_forall₂ h.joins fun _ _ hjoin => hjoin.table

/-- A join mentions the same columns as an alike one. -/
theorem columnRefs_condition_eq {condition condition' : Option Criterion}
    (h : Option.Rel Criterion.Alike condition condition') :
    (condition.map Criterion.columnRefs).getD []
      = (condition'.map Criterion.columnRefs).getD [] := by
  rw [map_eq_map_of_rel h fun _ _ h => Criterion.columnRefs_eq h]

/-- Their join conditions mention the same tables. -/
theorem joinSources_eq (h : k.Alike k') : k.joinSources = k'.joinSources := by
  have hcolumns :
      k.joins.flatMap (fun join => (join.condition.map Criterion.columnRefs).getD [])
        = k'.joins.flatMap fun join => (join.condition.map Criterion.columnRefs).getD [] := by
    rw [List.flatMap_def, List.flatMap_def,
      map_eq_map_of_forall₂ h.joins fun _ _ hjoin => columnRefs_condition_eq hjoin.condition]
  unfold joinSources
  rw [hcolumns]

/-- So their FROM lists are the same. -/
theorem sourceTables_eq (h : k.Alike k') : k.sourceTables = k'.sourceTables := by
  have htables : k.tables = k'.tables := by rw [h.others]
  unfold sourceTables
  rw [joinTargets_eq h, joinSources_eq h, htables]

/-- Alike joins are written with one outline, or fail for the same alias. -/
theorem joinEntry_alike (h : k.Alike k') (s : Style) {join join' : Join}
    (hjoin : join.Alike join') :
    SameResult Sql.SameOutline (k.joinEntry s join) (k'.joinEntry s join') := by
  have htable : k'.tableEntry s join'.table = k.tableEntry s join.table := by
    rw [h.others, hjoin.table]
    rfl
  have hcondition := hjoin.condition
  unfold joinEntry
  rw [htable, hjoin.joinType]
  cases k.tableEntry s join.table with
  | error e => exact .error e
  | ok table =>
    refine .ok ?_
    -- Alike conditions are both absent or both present.
    generalize join.condition = condition at hcondition ⊢
    generalize join'.condition = condition' at hcondition ⊢
    cases hcondition with
    | none => exact .refl _
    | some hcondition =>
      exact (Sql.SameOutline.refl _).append (Criterion.sameOutline_sql hcondition s)

/-- A condition of alike criteria shows one outline. -/
theorem condition_alike {condition condition' : Option Criterion}
    (h : Option.Rel Criterion.Alike condition condition') (s : Style) :
    Option.Rel Sql.SameOutline (condition.map (Criterion.sql s))
      (condition'.map (Criterion.sql s)) := by
  cases h with
  | none => exact .none
  | some h => exact .some (Criterion.sameOutline_sql h s)

/-- The clauses of alike criteria are the same up to values, and fail together. -/
theorem clauses_alike (h : k.Alike k') (s : Style) :
    SameResult Query.SameOutline (k.clauses s) (k'.clauses s) := by
  have hselect : k'.selectList s = k.selectList s := by
    rw [h.others]
    rfl
  have hsources : k'.sourceTables.mapM (k'.tableEntry s)
      = k.sourceTables.mapM (k.tableEntry s) := by
    rw [← sourceTables_eq h, h.others]
    rfl
  unfold clauses
  rw [hselect, hsources]
  -- The select list and the FROM list are the same in both, whether they fail or not.
  cases k.selectList s with
  | error e => exact .error e
  | ok columns =>
    cases k.sourceTables.mapM (k.tableEntry s) with
    | error e => exact .error e
    | ok sources =>
      have hjoins := SameResult.mapM (fun _ _ hjoin => joinEntry_alike h s hjoin) h.joins
      refine hjoins.bind fun joins joins' hentries => .ok ?_
      exact {
        joins := hentries
        filter := condition_alike h.predicate s
        having := condition_alike h.having s
        others := by
          rw [h.others] }

/-- The same written query, and as many values bound to its parameters. -/
def SameWritten (written written' : Query String × List SqlValue) : Prop :=
  written.1 = written'.1 ∧ written.2.length = written'.2.length

/-- What is written with placeholders for alike criteria differs in the values bound only. -/
theorem build_alike (h : k.Alike k') (d : Dialect) (quote : Bool) :
    SameResult SameWritten (k.build d .parameterized quote) (k'.build d .parameterized quote) := by
  have hwriter : k'.writer d .parameterized quote = k.writer d .parameterized quote := by
    rw [h.others]
    rfl
  have hlimit : k'.limit = k.limit := by rw [h.others]
  have hoffset : k'.offset = k.offset := by rw [h.others]
  have hrender : ∀ q q' : Query Sql, q.SameOutline q' →
      SameWritten (q.render d .parameterized, q.boundIn .parameterized)
        (q'.render d .parameterized, q'.boundIn .parameterized) := by
    intro q q' hq
    rw [Query.render_parameterized, Query.render_parameterized]
    exact ⟨hq.parameterized_eq d, hq.length_params_eq⟩
  have hclauses := clauses_alike h (k.style d quote)
  unfold build
  rw [hwriter, run_writeClauses, run_writeClauses, hlimit, hoffset]
  refine (hclauses.map hrender).bind ?_
  -- The bounds go into a query without values, which is the same for both.
  rintro ⟨q, values⟩ ⟨q', values'⟩ ⟨hq, hlength⟩
  dsimp only at hq hlength ⊢
  rw [hq]
  cases q'.paginate d k.limit k.offset with
  | error e => exact .error e
  | ok q => exact .ok ⟨rfl, hlength⟩

/-- The statements of alike criteria with placeholders fail with one error, or they are the same
text with as many values. The dialect may quote names and ignore case in any way: it is never shown
a bound value, only the placeholder. -/
theorem parameterizedWith_alike (h : k.Alike k') (d : Dialect) (quote : Bool) :
    (∃ e, k.parameterizedWith d quote = .error e ∧ k'.parameterizedWith d quote = .error e) ∨
      ∃ text values values', k.parameterizedWith d quote = .ok (text, values) ∧
        k'.parameterizedWith d quote = .ok (text, values') ∧ values.length = values'.length := by
  have hbuild := build_alike h d quote
  unfold parameterizedWith
  generalize k.build d .parameterized quote = written at hbuild ⊢
  generalize k'.build d .parameterized quote = written' at hbuild ⊢
  cases hbuild with
  | error e => exact .inl ⟨e, rfl, rfl⟩
  | @ok a b hab =>
    refine .inr ⟨a.1.text, a.2, b.2, rfl, ?_, hab.2⟩
    rw [hab.1]
    rfl

/-- Criteria with a value beside NULL in a list, and with a pattern. -/
def ofListAndPattern (v : SqlValue) (pattern : String) : Criteria :=
  { empty.addTable "t" with
    predicate := some (.group .and [
      .comparison ⟨"t.a", .membership false [.null, v], false⟩,
      .comparison ⟨"t.b", .relation .like (.value (.string pattern)), true⟩]) }

/-- A dialect that ignores case and quotes names in its own ways. -/
def loweringDialect : Dialect :=
  { Backend.oracle.dialect with
    ignoreCase := fun expression => "LOWER(" ++ expression ++ ")"
    quoteIdentifier := fun name => "[" ++ name ++ "]" }

/-- Another value in a list beside NULL, and another pattern with wildcards. -/
theorem parameterizedWith_alike_ofListAndPattern :
    let k := ofListAndPattern (.string "x") "y*"
    let k' := ofListAndPattern (.string "') OR 1=1 --") "?' OR 1=1 --"
    let text := "SELECT * FROM [t] WHERE ([t.a] IN (:1) OR [t.a] IS NULL) AND" ++
      " LOWER([t.b]) LIKE LOWER(:2)"
    k.Alike k' ∧ ∃ values values',
      k.parameterizedWith loweringDialect true = .ok (text, values) ∧
      k'.parameterizedWith loweringDialect true = .ok (text, values') ∧
      values.length = values'.length := by
  intro k k' text
  have hlist : List.Forall₂ SqlValue.Alike [.null, .string "x"] [.null, .string "') OR 1=1 --"] :=
    .cons (.same .null) (.cons (.strings _ _) .nil)
  have hpattern : (LikePattern.ofText "y*").hasWildcard
      = (LikePattern.ofText "?' OR 1=1 --").hasWildcard := by decide
  have h : k.Alike k' := {
    joins := .nil
    predicate := .some (.group .and (.cons (.comparison "t.a" false (.membership false hlist))
      (.cons (.comparison "t.b" true (.pattern rfl hpattern)) .nil)))
    having := .none
    others := rfl }
  have hrun : (k.parameterizedWith loweringDialect true).map Prod.fst = .ok text := by
    decide +kernel
  obtain ⟨⟨written, bound⟩, hwritten, rfl⟩ := except_map_eq_ok_iff.mp hrun
  refine ⟨h, ?_⟩
  rcases parameterizedWith_alike h loweringDialect true with
    ⟨e, herror, -⟩ | ⟨same, values, values', hfirst, hsecond, hlength⟩
  · rw [herror] at hwritten
    cases hwritten
  · rw [hfirst] at hwritten
    cases hwritten
    exact ⟨_, _, hfirst, hsecond, hlength⟩

end Criteria

end SqlSelect
