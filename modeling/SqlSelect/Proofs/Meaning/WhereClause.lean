import SqlSelect.Proofs.Building.Steps
import SqlSelect.Proofs.Meaning.Units

/-!
# `SqlSelect.Proofs.Meaning.WhereClause`: the WHERE clause says what was asked for

A criterion is written with parentheses only around a group inside a group of the other conjunction,
and criteria that are joined may end up in a group that was there before. The value of the written
text is still that of the tree, and the value of the WHERE clause that of the steps.

* `Criterion.means_sql`: the text of a criterion is read as the value of the criterion.
* `Criteria.where_means`: the WHERE clause is read as the conditions of the steps, joined from left
  to right.
-/

set_option autoImplicit false

namespace SqlSelect

/-- The text of a criterion is read as the value of the criterion, where every comparison is an
atom. -/
theorem Criterion.means_sql (s : Style) (mode : RenderMode) (used start : Nat) {c : Criterion}
    (h : c.WellFormed) :
    ∃ f, Reads (.chain .or) start (atomTexts s mode used c.comparisons)
        ((c.sql s).render s.dialect mode used) f ∧
      ∀ ρ, f.value ρ = c.value ρ start := by
  obtain ⟨f, hsaid⟩ := says_sql s mode Readings.sound_none used start h
  have hread := hsaid.reads
  rw [unitAtoms_none (length_atomTexts s mode used c.comparisons)] at hread
  refine ⟨f, hread, fun ρ => ?_⟩
  rw [hsaid.exact (rawFits_none none c), unitValue_none]

namespace Criteria

/-! ### The conditions of a run -/

/-- Conditions that are joined one after the other keep their comparisons in order, and their value
is folded from the left. -/
theorem foldl_joinCondition {first : Criterion} (hfirst : first.WellFormed)
    {rest : List (Conjunction × Criterion)} (hrest : ∀ p ∈ rest, p.2.WellFormed) :
    ∃ c, rest.foldl (fun old p => joinCondition p.1 old p.2) (some first) = some c ∧
      c.WellFormed ∧
      c.comparisons = first.comparisons ++ rest.flatMap (fun p => p.2.comparisons) ∧
      ∀ ρ start, c.value ρ start = Criterion.foldValue ρ (first.value ρ start)
        (start + first.comparisons.length) rest := by
  induction rest generalizing first with
  | nil => exact ⟨first, rfl, hfirst, by simp, fun ρ start => rfl⟩
  | cons p rest ih =>
    -- What has been joined so far is the first condition of the rest.
    have hp := hrest p List.mem_cons_self
    obtain ⟨c, hc, hwell, hcomparisons, hvalue⟩ :=
      ih (hfirst.join hp p.1) fun q hq => hrest q (List.mem_cons_of_mem _ hq)
    refine ⟨c, hc, hwell, ?_, fun ρ start => ?_⟩
    · rw [hcomparisons, Criterion.comparisons_join, List.flatMap_cons, List.append_assoc]
    · rw [hvalue, Criterion.value_join, Criterion.comparisons_join, List.length_append,
        ← Nat.add_assoc]
      rfl

/-- The comparisons of the conditions of some steps. -/
def comparisonsBy (steps : List Step) : List Comparison :=
  (conditionsBy steps).flatMap fun p => p.2.comparisons

/-- The predicate after a run is one condition, with the comparisons of all of them and the value
that they have together. -/
theorem exists_predicate_of_ofSteps {steps : List Step} {k : Criteria}
    (hsteps : ofSteps steps = .ok k) (hbuilt : ∀ p ∈ conditionsBy steps, p.2.Built)
    {first : Conjunction × Criterion} {rest : List (Conjunction × Criterion)}
    (hconditions : conditionsBy steps = first :: rest) :
    ∃ c, k.predicate = some c ∧ c.WellFormed ∧ c.comparisons = comparisonsBy steps ∧
      ∀ ρ, c.value ρ 0
        = Criterion.foldValue ρ (first.2.value ρ 0) first.2.comparisons.length rest := by
  have hwell : ∀ p ∈ first :: rest, p.2.WellFormed := by
    intro p hp
    exact (hbuilt p (hconditions ▸ hp)).wellFormed
  obtain ⟨c, hc, hcwell, hcomparisons, hvalue⟩ := foldl_joinCondition
    (hwell first List.mem_cons_self) fun p hp => hwell p (List.mem_cons_of_mem _ hp)
  refine ⟨c, ?_, hcwell, ?_, fun ρ => ?_⟩
  · -- The first condition meets no other, so its word is not written.
    rw [predicate_of_ofSteps hsteps, hconditions, List.foldl_cons]
    exact hc
  · rw [comparisonsBy, hconditions, List.flatMap_cons, hcomparisons]
  · rw [hvalue, Nat.zero_add]

/-- The writer leaves the texts of comparisons one after the other. -/
theorem writesAll_comparisons {w : Writer} (cs : List Comparison) :
    WritesAll w (cs.mapM (Comparison.write w)) (cs.map (Comparison.sql w.toStyle)) :=
  writesAll_mapM (fun c => c.writes_write) cs

/-! ### Runs of conditions -/

/-- Criteria with nothing in them that could keep a dialect from writing them. -/
structure OnlyConditions (k : Criteria) : Prop where
  namedColumns : k.namedColumns.entries = []
  tableAliases : k.tableAliases.entries = []
  joins : k.joins = []
  limit : k.limit = none
  offset : k.offset = none

/-- Steps that only add conditions leave nothing in the criteria that could fail. -/
theorem onlyConditions_of_ofSteps {steps : List Step} {k : Criteria} (h : ofSteps steps = .ok k)
    (hsteps : ∀ step ∈ steps, step.condition?.isSome) : k.OnlyConditions := by
  refine of_ofSteps (P := fun steps k => (∀ step ∈ steps, step.condition?.isSome) →
    k.OnlyConditions) (fun _ => ⟨rfl, rfl, rfl, rfl, rfl⟩) ?_ h hsteps
  intro steps step k ih _ hall
  have hk := ih fun earlier hearlier => hall earlier (List.mem_append_left _ hearlier)
  have hstep := hall step (by simp)
  cases step with
  | andWhere | orWhere | whereValue | whereEq =>
    refine ⟨hk.namedColumns, hk.tableAliases, ?_, hk.limit, hk.offset⟩
    rw [Step.joins_effect, withTables, hk.joins]
    rfl
  | _ => cases hstep

/-- Such criteria are written in every dialect. -/
theorem OnlyConditions.build_ok {k : Criteria} (h : k.OnlyConditions) (d : Dialect)
    (mode : RenderMode) (quote : Bool) : ∃ q values, k.build d mode quote = .ok (q, values) := by
  have hentry : ∀ table, k.tableEntry (k.style d quote) table
      = .ok ((k.style d quote).identifier table) := by
    intro table
    unfold tableEntry NamedList.get?
    rw [h.tableAliases]
    rfl
  have hsources : k.sourceTables.mapM (k.tableEntry (k.style d quote))
      = .ok (k.sourceTables.map (k.style d quote).identifier) := by
    rw [funext hentry]
    exact List.mapM_pure
  -- Without aliases there is nothing to check, neither for the tables nor in the select list.
  have hselect : ∃ columns, k.selectList (k.style d quote) = .ok columns := by
    unfold selectList
    rw [h.namedColumns]
    exact ⟨_, rfl⟩
  obtain ⟨columns, hcolumns⟩ := hselect
  have hquery : ∃ q, k.query d quote = .ok q := by
    unfold query clauses
    rw [hcolumns, hsources, h.joins, h.limit, h.offset]
    exact ⟨_, rfl⟩
  obtain ⟨q, hq⟩ := hquery
  rw [build_eq, hq]
  exact ⟨_, _, rfl⟩

/-! ### The WHERE clause -/

/-- The WHERE clause of built criteria. A run of conditions is written in every dialect. The text of
the WHERE clause has one reading in which the atoms are the texts of the comparisons, written one
after the other behind the joins. Its value is that of the first condition, joined with those of
the others in the order of the steps. -/
theorem where_means {steps : List Step} {k : Criteria} (hsteps : ofSteps steps = .ok k)
    (hbuilt : ∀ p ∈ conditionsBy steps, p.2.Built) {first : Conjunction × Criterion}
    {rest : List (Conjunction × Criterion)} (hconditions : conditionsBy steps = first :: rest)
    (d : Dialect) (mode : RenderMode) (quote : Bool) :
    ((∀ step ∈ steps, step.condition?.isSome) →
      ∃ q values, k.build d mode quote = .ok (q, values)) ∧
    ∀ q values, k.build d mode quote = .ok (q, values) →
      ∃ (inJoins inFilter : List SqlValue) (text : String) (texts : List String) (f : Formula),
        (k.joins.mapM (k.writeJoin (k.writer d mode quote))).run [] = .ok (q.joins, inJoins) ∧
        Id.run (((comparisonsBy steps).mapM
          (Comparison.write (k.writer d mode quote))).run inJoins) = (texts, inFilter) ∧
        inFilter <+: values ∧
        q.filter = some text ∧
        Reads (.chain .or) 0 texts text f ∧
        (∀ g, Reads (.chain .or) 0 texts text g → g = f) ∧
        ∀ ρ, f.value ρ
          = Criterion.foldValue ρ (first.2.value ρ 0) first.2.comparisons.length rest := by
  refine ⟨fun honly => (onlyConditions_of_ofSteps hsteps honly).build_ok d mode quote, ?_⟩
  intro q values hbuild
  rw [build_eq] at hbuild
  obtain ⟨q₀, hquery, hrender⟩ := except_map_eq_ok_iff.mp hbuild
  cases hrender
  obtain ⟨-, hjoins, hfilter, -⟩ := of_query hquery
  obtain ⟨c, hpredicate, hcwell, hcomparisons, hvalue⟩ :=
    exists_predicate_of_ofSteps hsteps hbuilt hconditions
  rw [hpredicate] at hfilter
  -- The numbers of the placeholders go on behind those of the joins.
  let inJoins := q₀.joins.flatMap (Sql.boundIn mode)
  obtain ⟨f, hf, hfvalue⟩ := Criterion.means_sql (k.style d quote) mode inJoins.length 0 hcwell
  refine ⟨inJoins, inJoins ++ Criterion.atomValues (k.style d quote) mode c.comparisons,
    (c.sql (k.style d quote)).render d mode inJoins.length,
    Criterion.atomTexts (k.style d quote) mode inJoins.length c.comparisons, f, ?_, ?_, ?_, ?_, hf,
    fun g hg => hg.unique hf, fun ρ => ?_⟩
  · rw [run_mapM_writeJoin]
    show (k.joins.mapM (k.joinEntry (k.style d quote))).map _ = _
    rw [hjoins]
    rfl
  · rw [← hcomparisons]
    exact (writesAll_comparisons c.comparisons).run inJoins
  · have hbound : (c.sql (k.style d quote)).boundIn mode
        = Criterion.atomValues (k.style d quote) mode c.comparisons :=
      Criterion.boundIn_sqlWithin (k.style d quote) mode none c
    rw [Query.boundIn, hfilter, ← hbound]
    exact List.prefix_append _ _
  · show q₀.filter.map (Sql.render d mode inJoins.length) = _
    rw [hfilter]
    rfl
  · have hread : f.value ρ = c.value ρ 0 := hfvalue ρ
    rw [hread, hvalue]

/-- Whether a column is a number. -/
def isNumber (column : String) (n : Int64) : Criterion :=
  .comparison ⟨column, .relation .eq (.value (.bigInt n)), false⟩

/-- Whether a column is NULL. -/
def isMissing (column : String) : Criterion :=
  .comparison ⟨column, .nullness false, false⟩

/-- Steps after which the conditions of the first two stand in a group of the last one. -/
def mixedSteps : List Step :=
  [.whereEq "t.a" (.bigInt 1), .orWhere (isNumber "t.b" 2),
    .andWhere (.group .or [isMissing "t.c", isNumber "t.d" 4])]

/-- The conditions of these steps, with the words in front of them. -/
theorem conditionsBy_mixedSteps :
    conditionsBy mixedSteps = [(.and, isNumber "t.a" 1), (.or, isNumber "t.b" 2),
      (.and, .group .or [isMissing "t.c", isNumber "t.d" 4])] :=
  rfl

/-- All of them can be built. -/
theorem built_of_mem_conditionsBy_mixedSteps : ∀ p ∈ conditionsBy mixedSteps, p.2.Built := by
  have hnumber : ∀ column n, (isNumber column n).Built := by
    intro column n
    have hcompare : Criterion.compare column (.relation .eq) (some (.value (.bigInt n))) false
        = .ok (isNumber column n) := rfl
    exact .comparison hcompare
  have hmissing : (isMissing "t.c").Built := by
    have hcompare : Criterion.compare "t.c" .isNull none false = .ok (isMissing "t.c") := rfl
    exact .comparison hcompare
  have hgroup : (Criterion.group .or [isMissing "t.c", isNumber "t.d" 4]).Built := by
    have hlist : Criterion.ofList .or [isMissing "t.c", isNumber "t.d" 4]
        = .ok (.group .or [isMissing "t.c", isNumber "t.d" 4]) := rfl
    refine .group hlist ?_
    simpa using ⟨hmissing, hnumber "t.d" 4⟩
  rw [conditionsBy_mixedSteps]
  simpa using ⟨hnumber "t.a" 1, hnumber "t.b" 2, hgroup⟩

/-- A condition with OR in front of AND, where the statement needs parentheses that no step asked
for. -/
theorem where_means_mixedSteps :
    ∃ k q values texts f, ofSteps mixedSteps = .ok k ∧
      k.build Backend.postgres.dialect .inline false = .ok (q, values) ∧
      q.filter = some "(t.a=1 OR t.b=2) AND (t.c IS NULL OR t.d=4)" ∧
      Reads (.chain .or) 0 texts "(t.a=1 OR t.b=2) AND (t.c IS NULL OR t.d=4)" f ∧
      ∀ ρ, f.value ρ = ((ρ 0).or (ρ 1)).and ((ρ 2).or (ρ 3)) := by
  have hrun : ((ofSteps mixedSteps).bind fun k =>
      (k.build Backend.postgres.dialect .inline false).map fun written => written.1.filter)
        = .ok (some "(t.a=1 OR t.b=2) AND (t.c IS NULL OR t.d=4)") := by
    decide +kernel
  obtain ⟨k, hsteps, hrun⟩ := except_bind_eq_ok_iff.mp hrun
  obtain ⟨⟨q, values⟩, hbuild, hfilter⟩ := except_map_eq_ok_iff.mp hrun
  obtain ⟨inJoins, inFilter, text, texts, f, -, -, -, htext, hf, -, hvalue⟩ :=
    (where_means hsteps built_of_mem_conditionsBy_mixedSteps conditionsBy_mixedSteps
      Backend.postgres.dialect .inline false).2 q values hbuild
  rw [hfilter] at htext
  cases htext
  refine ⟨k, q, values, texts, f, hsteps, hbuild, hfilter, hf, fun ρ => ?_⟩
  rw [hvalue]
  show ((ρ 0).or (ρ 1)).and ((ρ 2).or ((ρ 3).or .false)) = _
  rw [show (ρ 3).or .false = ρ 3 from Conjunction.combine_neutral .or (ρ 3)]

end Criteria

end SqlSelect
