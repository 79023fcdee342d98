import SqlSelect.Proofs.Meaning.WhereClause

/-!
# `SqlSelect.Proofs.Meaning.RawCondition`: conditions given as SQL text

A condition given as SQL text keeps its grouping where it stands alone, beside OR, or beside AND
without OR in it. Where it has OR in it outside of parentheses and stands beside AND, the statement
asks for more than the criteria: rows that were asked for are returned, and others may be.

* `Criterion.readAsUnits_write`: how the text of a criterion is read.
* `Criteria.where_as_units`: how the WHERE clause is read, too.
* `Criteria.where_splits_raw_text`: a text that does not fit.
-/

set_option autoImplicit false

namespace SqlSelect

/-- How a text is read that is written for a criterion, where `texts` are written for the
comparisons. It has one reading, by the atoms of the texts. The text is true wherever the criterion
is when each condition given as SQL text is evaluated as one unit, and both always have the same
value exactly if every such condition fits where it stands. -/
def Criterion.ReadAsUnits (r : Readings) (c : Criterion) (texts : List String) (text : String) :
    Prop :=
  ∃ f, Reads (.chain .or) 0 (unitAtoms r texts c.comparisons) text f ∧
    (∀ g, Reads (.chain .or) 0 (unitAtoms r texts c.comparisons) text g → g = f) ∧
    (∀ ρ, c.unitValue r 0 ρ = .true → f.value ρ = .true) ∧
    ((∀ ρ, f.value ρ = c.unitValue r 0 ρ) ↔ c.RawFits r none)

/-- What a text says tells whether its parts fit. -/
theorem Says.exact_iff {p : Prop} {level : Level} {start : Nat} {atoms : List String}
    {text : String} {v : (Nat → Truth) → Truth} {f : Formula}
    (h : Says p level start atoms text v f) : (∀ ρ, f.value ρ = v ρ) ↔ p := by
  refine ⟨fun hsame => ?_, h.exact⟩
  by_contra hnot
  obtain ⟨ρ, htrue, hfalse⟩ := h.apart hnot
  rw [hsame, hfalse] at htrue
  cases htrue

namespace Criterion

/-- The text of a criterion, in either mode, has one reading when the texts of its raw conditions
are read where they stand. -/
theorem readAsUnits_write {r : Readings} (hr : r.Sound) {c : Criterion} (hc : c.WellFormed)
    (w : Writer) (bound : List SqlValue) :
    c.ReadAsUnits r (Id.run ((c.comparisons.mapM (Comparison.write w)).run bound)).1
      (Id.run ((c.write w).run bound)).1 := by
  rw [(Criteria.writesAll_comparisons c.comparisons).run, (writes_write c).run]
  obtain ⟨f, hsaid⟩ := says_sql w.toStyle w.mode hr bound.length 0 hc
  exact ⟨f, hsaid.reads, fun g hg => hg.unique hsaid.reads, hsaid.complete, hsaid.exact_iff⟩

end Criterion

namespace Criteria

/-- The predicate of built criteria has no empty group. -/
theorem wellFormed_predicate {steps : List Step} {k : Criteria} (hsteps : ofSteps steps = .ok k)
    (hbuilt : ∀ p ∈ conditionsBy steps, p.2.Built) {c : Criterion} (hc : k.predicate = some c) :
    c.WellFormed := by
  cases hconditions : conditionsBy steps with
  | nil =>
    rw [predicate_of_ofSteps hsteps, hconditions] at hc
    cases hc
  | cons first rest =>
    obtain ⟨c', hc', hwell, -⟩ := exists_predicate_of_ofSteps hsteps hbuilt hconditions
    rw [hc] at hc'
    cases hc'
    exact hwell

/-- The WHERE clause is the predicate, written behind the values of the joins. -/
theorem filter_of_build {k : Criteria} {d : Dialect} {mode : RenderMode} {quote : Bool}
    {q : Query String} {values : List SqlValue} (hbuild : k.build d mode quote = .ok (q, values))
    {c : Criterion} (hc : k.predicate = some c) :
    ∃ inJoins,
      (k.joins.mapM (k.writeJoin (k.writer d mode quote))).run [] = .ok (q.joins, inJoins) ∧
      q.filter = some (Id.run ((c.write (k.writer d mode quote)).run inJoins)).1 := by
  rw [build_eq] at hbuild
  obtain ⟨q₀, hquery, hrender⟩ := except_map_eq_ok_iff.mp hbuild
  cases hrender
  obtain ⟨-, hjoins, hfilter, -⟩ := of_query hquery
  rw [hc] at hfilter
  refine ⟨q₀.joins.flatMap (Sql.boundIn mode), ?_, ?_⟩
  · -- The condition is written behind the joins, so its placeholders are numbered on from theirs.
    rw [run_mapM_writeJoin]
    show (k.joins.mapM (k.joinEntry (k.style d quote))).map _ = _
    rw [hjoins]
    rfl
  · rw [(Criterion.writes_write c).run]
    show q₀.filter.map (Sql.render d mode _) = _
    rw [hfilter]
    rfl

/-- Conditions given as SQL text, in every criterion that can be built and in the WHERE clause of
built criteria. -/
theorem where_as_units {r : Readings} (hr : r.Sound) :
    (∀ c : Criterion, c.Built → ∀ (w : Writer) (bound : List SqlValue),
      c.ReadAsUnits r (Id.run ((c.comparisons.mapM (Comparison.write w)).run bound)).1
        (Id.run ((c.write w).run bound)).1) ∧
    ∀ (steps : List Step) (k : Criteria) (c : Criterion) (d : Dialect) (mode : RenderMode)
      (quote : Bool) (q : Query String) (values : List SqlValue),
      ofSteps steps = .ok k → (∀ p ∈ conditionsBy steps, p.2.Built) → k.predicate = some c →
      k.build d mode quote = .ok (q, values) →
      ∃ inJoins text, (k.joins.mapM (k.writeJoin (k.writer d mode quote))).run []
          = .ok (q.joins, inJoins) ∧
        q.filter = some text ∧
        c.ReadAsUnits r (Id.run ((c.comparisons.mapM
          (Comparison.write (k.writer d mode quote))).run inJoins)).1 text := by
  refine ⟨fun c hc w bound => Criterion.readAsUnits_write hr hc.wellFormed w bound, ?_⟩
  intro steps k c d mode quote q values hsteps hbuilt hc hbuild
  obtain ⟨inJoins, hjoins, hfilter⟩ := filter_of_build hbuild hc
  exact ⟨inJoins, _, hjoins, hfilter, Criterion.readAsUnits_write hr
    (wellFormed_predicate hsteps hbuilt hc) _ inJoins⟩

/-- The readings by which one text has two alternatives. -/
def orReadings : Readings := fun sql =>
  if sql = "t.a=1 OR t.b=2" then
    some ⟨["t.a=1", "t.b=2"], .joined .or (.atom 0) (.atom 1)⟩
  else none

/-- The one text that is taken apart is read as it is said to be. -/
theorem sound_orReadings : orReadings.Sound := by
  intro sql reading hreading
  unfold orReadings at hreading
  split at hreading
  · rename_i hsql
    cases hreading
    rw [hsql]
    have hfirst := (Reads.atom 0 "t.a=1").of_primary (.chain .and)
    have hsecond := (Reads.atom 1 "t.b=2").of_primary (.chain .or)
    exact .joined .or hfirst hsecond
  · cases hreading

/-- A text with alternatives, and another condition beside OR. -/
def besideOr : List Step :=
  [.andWhere (.custom "t.a=1 OR t.b=2"), .orWhere (isNumber "t.c" 3)]

/-- The condition that they ask for. -/
def besideOrCondition : Criterion :=
  .group .or [.custom "t.a=1 OR t.b=2", isNumber "t.c" 3]

/-- These conditions can be built. -/
theorem built_of_mem_conditionsBy_besideOr : ∀ p ∈ conditionsBy besideOr, p.2.Built := by
  have hnumber : (isNumber "t.c" 3).Built := by
    have hcompare : Criterion.compare "t.c" (.relation .eq) (some (.value (.bigInt 3))) false
        = .ok (isNumber "t.c" 3) := rfl
    exact .comparison hcompare
  have hconditions : conditionsBy besideOr
      = [(.and, .custom "t.a=1 OR t.b=2"), (.or, isNumber "t.c" 3)] := rfl
  rw [hconditions]
  simpa using ⟨Criterion.Built.custom "t.a=1 OR t.b=2", hnumber⟩

/-- A text with OR in it beside OR, where it needs no parentheses. -/
theorem where_as_units_besideOr :
    orReadings.Sound ∧ ∃ k q values f, ofSteps besideOr = .ok k ∧
      k.build Backend.postgres.dialect .inline false = .ok (q, values) ∧
      q.filter = some "t.a=1 OR t.b=2 OR t.c=3" ∧
      Reads (.chain .or) 0 ["t.a=1", "t.b=2", "t.c=3"] "t.a=1 OR t.b=2 OR t.c=3" f ∧
      ∀ ρ, f.value ρ = ((ρ 0).or (ρ 1)).or (ρ 2) := by
  have hrun : ((ofSteps besideOr).bind fun k =>
      (k.build Backend.postgres.dialect .inline false).map fun written => (written.1.filter,
        (Id.run ((besideOrCondition.comparisons.mapM (Comparison.write
          (k.writer Backend.postgres.dialect .inline false))).run [])).1))
        = .ok (some "t.a=1 OR t.b=2 OR t.c=3", ["t.a=1 OR t.b=2", "t.c=3"]) := by
    decide +kernel
  obtain ⟨k, hsteps, hrun⟩ := except_bind_eq_ok_iff.mp hrun
  obtain ⟨⟨q, values⟩, hbuild, hwritten⟩ := except_map_eq_ok_iff.mp hrun
  simp only [Prod.mk.injEq] at hwritten
  obtain ⟨hfilter, htexts⟩ := hwritten
  have hpredicate : k.predicate = some besideOrCondition := predicate_of_ofSteps hsteps
  obtain ⟨inJoins, text, hjoins, htext, f, hread, -, -, hexact⟩ := (where_as_units
    sound_orReadings).2 besideOr k besideOrCondition Backend.postgres.dialect .inline false q values
    hsteps built_of_mem_conditionsBy_besideOr hpredicate hbuild
  have hnoJoins : ([] : List String) = q.joins ∧ [] = inJoins := by
    rw [joins_of_ofSteps hsteps] at hjoins
    exact Prod.ext_iff.mp (Except.ok.inj hjoins)
  obtain ⟨-, rfl⟩ := hnoJoins
  rw [hfilter] at htext
  cases htext
  rw [htexts] at hread
  have hfits : besideOrCondition.RawFits orReadings none :=
    ⟨Comparison.fits_of_sound sound_orReadings _, Comparison.fits_of_sound sound_orReadings _,
      trivial⟩
  refine ⟨sound_orReadings, k, q, values, f, hsteps, hbuild, hfilter, hread, fun ρ => ?_⟩
  rw [hexact.mpr hfits]
  show ((ρ 0).or (ρ 1)).or ((ρ 2).or .false) = _
  rw [show (ρ 2).or .false = ρ 2 from Conjunction.combine_neutral .or (ρ 2)]

/-- Beside AND it does not: where only the first alternative is true, the WHERE clause is true and
the two conditions are not. -/
theorem where_splits_raw_text :
    ∃ k q values c, ofSteps [.andWhere (.custom "t.a=1 OR t.b=2"), .andWhere (isNumber "t.c" 3)]
        = .ok k ∧
      k.build Backend.postgres.dialect .inline false = .ok (q, values) ∧
      k.predicate = some c ∧ q.filter = some "t.a=1 OR t.b=2 AND t.c=3" ∧
      ∃ f, Reads (.chain .or) 0 ["t.a=1", "t.b=2", "t.c=3"] "t.a=1 OR t.b=2 AND t.c=3" f ∧
        (∀ g, Reads (.chain .or) 0 ["t.a=1", "t.b=2", "t.c=3"] "t.a=1 OR t.b=2 AND t.c=3" g →
          g = f) ∧
        f.value (fun i => if i = 0 then .true else .false) = .true ∧
        c.unitValue orReadings 0 (fun i => if i = 0 then .true else .false) = .false := by
  have hrun : ((ofSteps [.andWhere (.custom "t.a=1 OR t.b=2"),
      .andWhere (isNumber "t.c" 3)]).bind fun k =>
        (k.build Backend.postgres.dialect .inline false).map fun written => written.1.filter)
        = .ok (some "t.a=1 OR t.b=2 AND t.c=3") := by
    decide +kernel
  obtain ⟨k, hsteps, hrun⟩ := except_bind_eq_ok_iff.mp hrun
  obtain ⟨⟨q, values⟩, hbuild, hfilter⟩ := except_map_eq_ok_iff.mp hrun
  have hpredicate : k.predicate = some (.group .and [.custom "t.a=1 OR t.b=2", isNumber "t.c" 3]) :=
    predicate_of_ofSteps hsteps
  -- AND takes the second alternative of the raw text from it.
  have hread : Reads (.chain .or) 0 ["t.a=1", "t.b=2", "t.c=3"] "t.a=1 OR t.b=2 AND t.c=3"
      (.joined .or (.atom 0) (.joined .and (.atom 1) (.atom 2))) := by
    have hfirst := (Reads.atom 0 "t.a=1").of_primary (.chain .and)
    have hlast := (Reads.atom 2 "t.c=3").of_primary (.chain .and)
    have hrest : Reads (.chain .and) 1 ["t.b=2", "t.c=3"] "t.b=2 AND t.c=3"
        (.joined .and (.atom 1) (.atom 2)) :=
      .joined .and (.atom 1 "t.b=2") hlast
    exact .joined .or hfirst hrest.of_chain
  exact ⟨k, q, values, _, hsteps, hbuild, hpredicate, hfilter, _, hread,
    fun g hg => hg.unique hread, rfl, by decide +kernel⟩

end Criteria

end SqlSelect
