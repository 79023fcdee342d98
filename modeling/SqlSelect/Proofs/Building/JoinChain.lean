import SqlSelect.Proofs.Building.FromClause

/-!
# `SqlSelect.Proofs.Building.JoinChain`: what the joins attach to

The joins of a statement stand behind the entries of the FROM list. A comma binds weaker than a
join, so the chain of joins hangs on the last entry: a join condition sees that table, the tables
that were joined before, and the one that is joined by it. Joined tables are left out of the FROM
list, and those that a join condition mentions come last in it. That is not always enough.

* `Criteria.sources_eq_nil_iff_of_build`: the joins have nothing in front of them exactly if every
  registered table is joined.
* `Criteria.sources_ne_nil_of_mentions`: so a table that is mentioned and not joined is enough.
* `Criteria.joinsScoped_iff_of_build`: every condition sees what it mentions exactly if the FROM
  list has at most one table that a condition mentions.
-/

set_option autoImplicit false

namespace SqlSelect

open Column

/-- The tables that a join condition mentions. -/
def Join.mentions (join : Join) : List String :=
  join.columns.flatMap tablesOf

/-- Whether each of some joins mentions only tables in scope, which are those of `scope`, those that
were joined before, and the one that is joined. -/
def JoinsScoped : List String → List Join → Prop
  | _, [] => True
  | scope, join :: joins =>
    (∀ table ∈ join.mentions, table ∈ join.table :: scope) ∧ JoinsScoped (join.table :: scope) joins

instance JoinsScoped.decidable : (scope : List String) → (joins : List Join) →
    Decidable (JoinsScoped scope joins)
  | _, [] => .isTrue trivial
  | scope, join :: joins =>
    have := JoinsScoped.decidable (join.table :: scope) joins
    inferInstanceAs (Decidable (_ ∧ _))

/-- Whether no table is mentioned before it is joined. -/
def JoinedBeforeMention (joins : List Join) : Prop :=
  joins.Pairwise fun earlier later => later.table ∉ earlier.mentions

instance (joins : List Join) : Decidable (JoinedBeforeMention joins) :=
  inferInstanceAs (Decidable (List.Pairwise _ _))

/-- Where every condition sees what it mentions, a mentioned table is one of those in front of the
joins or is joined. -/
theorem mem_or_joined_of_joinsScoped {scope : List String} {joins : List Join}
    (h : JoinsScoped scope joins) {join : Join} (hjoin : join ∈ joins) {table : String}
    (htable : table ∈ join.mentions) : table ∈ scope ∨ table ∈ joins.map Join.table := by
  induction joins generalizing scope with
  | nil => cases hjoin
  | cons first joins ih =>
    rw [List.map_cons, List.mem_cons]
    rcases List.mem_cons.mp hjoin with rfl | hjoin
    · rcases List.mem_cons.mp (h.1 table htable) with hfirst | hscope
      · exact .inr (.inl hfirst)
      · exact .inl hscope
    · -- A later join sees the first one's table as well, which is then joined and not in the scope.
      rcases ih h.2 hjoin with hscope | hjoined
      · rcases List.mem_cons.mp hscope with hfirst | hscope
        · exact .inr (.inl hfirst)
        · exact .inl hscope
      · exact .inr (.inr hjoined)

/-- Where no table is mentioned before it is joined, it does not matter which join comes first. -/
theorem joinsScoped_iff {scope : List String} {joins : List Join}
    (hfresh : JoinedBeforeMention joins) :
    JoinsScoped scope joins ↔ ∀ join ∈ joins, ∀ table ∈ join.mentions,
      table ∈ scope ∨ table ∈ joins.map Join.table := by
  refine ⟨fun h join hjoin table htable => mem_or_joined_of_joinsScoped h hjoin htable, ?_⟩
  induction joins generalizing scope with
  | nil => exact fun _ => trivial
  | cons first joins ih =>
    intro h
    obtain ⟨hfirst, hrest⟩ := List.pairwise_cons.mp hfresh
    -- The first join sees the scope and its own table; for the later ones its table is in the
    -- scope.
    refine ⟨fun table htable => ?_, ih hrest fun join hjoin table htable => ?_⟩
    · rcases h first List.mem_cons_self table htable with hscope | hjoined
      · exact List.mem_cons_of_mem _ hscope
      · rcases List.mem_cons.mp hjoined with rfl | hjoined
        · exact List.mem_cons_self
        · -- A later join would bring a table that is mentioned here.
          obtain ⟨later, hlater, rfl⟩ := List.mem_map.mp hjoined
          exact absurd htable (hfirst later hlater)
    · rcases h join (List.mem_cons_of_mem _ hjoin) table htable with hscope | hjoined
      · exact .inl (List.mem_cons_of_mem _ hscope)
      · rcases List.mem_cons.mp hjoined with rfl | hjoined
        · exact .inl List.mem_cons_self
        · exact .inr hjoined

namespace Criteria

variable {steps : List Step} {k : Criteria} {d : Dialect} {mode : RenderMode} {quote : Bool}
  {q : Query String} {values : List SqlValue}

/-! ### The written entries -/

/-- The FROM list of a statement has an entry for each of its tables, and the joins follow in their
order. -/
theorem entries_of_build (hbuild : k.build d mode quote = .ok (q, values)) :
    List.Forall₂ (fun table entry => k.tableEntry (k.style d quote) table = .ok entry)
      k.sourceTables q.sources ∧
    List.Forall₂ (fun join text => ∃ entry used,
        k.tableEntry (k.style d quote) join.table = .ok entry ∧
        text = joinText (k.style d quote) mode join entry used) k.joins q.joins := by
  rw [build_eq] at hbuild
  obtain ⟨q₀, hquery, hrender⟩ := except_map_eq_ok_iff.mp hbuild
  cases hrender
  obtain ⟨hsources, hjoins, -, -⟩ := of_query hquery
  exact ⟨mapM_eq_ok_iff.mp hsources, forall₂_renderAll_joins (mapM_eq_ok_iff.mp hjoins) 0⟩

/-- A table that a join condition of built criteria mentions is in the FROM list or joined. -/
theorem mem_sourceTables_or_joined (hsteps : ofSteps steps = .ok k) {join : Join}
    (hjoin : join ∈ k.joins) {table : String} (htable : table ∈ join.mentions) :
    table ∈ k.sourceTables ∨ table ∈ k.joins.map Join.table := by
  rw [sourceTables_of_ofSteps hsteps]
  rw [joins_of_ofSteps hsteps] at hjoin ⊢
  obtain ⟨column, hcolumn, htable⟩ := List.mem_flatMap.mp htable
  refine mem_sourcesBy_or_joined hsteps (List.mem_append_right _ ?_) htable
  exact List.mem_flatMap.mpr ⟨join, hjoin, hcolumn⟩

/-! ### Joins with nothing in front of them -/

/-- The FROM list of a statement is empty exactly if every registered table is joined. Where there
are joins all the same, the FROM clause starts with one of them. -/
theorem sources_eq_nil_iff_of_build (hsteps : ofSteps steps = .ok k)
    (hbuild : k.build d mode quote = .ok (q, values)) :
    (q.sources = [] ↔ ∀ table ∈ registeredBy steps, table ∈ (joinsBy steps).map Join.table) ∧
    (q.sources = [] → q.joins ≠ [] →
      q.fromText = " FROM " ++ String.join (q.joins.map (" " ++ ·))) := by
  have hentries := (entries_of_build hbuild).1
  have hnil : q.sources = [] ↔ sourcesBy steps = [] := by
    rw [← sourceTables_of_ofSteps hsteps, ← List.length_eq_zero_iff, ← hentries.length_eq,
      List.length_eq_zero_iff]
  refine ⟨?_, fun hsources hjoins => ?_⟩
  · rw [hnil, List.eq_nil_iff_forall_not_mem]
    refine forall_congr' fun table => ?_
    rw [mem_sourcesBy]
    tauto
  · simp [Query.fromText, hsources, hjoins]

/-- A cross join alone. -/
theorem sources_eq_nil_of_crossJoin :
    ∃ k q values, ofSteps [.crossJoin "b"] = .ok k ∧
      k.build Backend.postgres.dialect .inline false = .ok (q, values) ∧
      q.joins = ["CROSS JOIN b"] ∧ q.sources = [] ∧ q.fromText = " FROM  CROSS JOIN b" := by
  have hrun : ((ofSteps [.crossJoin "b"]).bind fun k =>
      (k.build Backend.postgres.dialect .inline false).map fun written => written.1.joins)
        = .ok ["CROSS JOIN b"] := by
    decide +kernel
  obtain ⟨k, hsteps, hrun⟩ := except_bind_eq_ok_iff.mp hrun
  obtain ⟨⟨q, values⟩, hbuild, hjoins⟩ := except_map_eq_ok_iff.mp hrun
  dsimp only at hjoins
  -- No table is registered, so every registered one is joined.
  obtain ⟨hnil, htext⟩ := sources_eq_nil_iff_of_build hsteps hbuild
  have hsources : q.sources = [] := hnil.mpr fun table htable => by cases htable
  refine ⟨k, q, values, hsteps, hbuild, hjoins, hsources, ?_⟩
  rw [htext hsources (by simp [hjoins]), hjoins]
  decide

/-- A table that a condition mentions and that is not joined itself is in front of the joins. -/
theorem sources_ne_nil_of_mentions (hsteps : ofSteps steps = .ok k)
    (hbuild : k.build d mode quote = .ok (q, values)) {join : Join} (hjoin : join ∈ k.joins)
    {table : String} (htable : table ∈ join.mentions) (hnot : table ∉ k.joins.map Join.table) :
    q.sources ≠ [] := by
  have hmem := (mem_sourceTables_or_joined hsteps hjoin htable).resolve_right hnot
  intro hsources
  have hentries := (entries_of_build hbuild).1
  rw [hsources, List.forall₂_nil_right_iff] at hentries
  rw [hentries] at hmem
  cases hmem

/-- Joins of two tables with each other leave nothing in front of them, although the condition of
the first one mentions another table than the one that it joins. -/
theorem sources_of_reversedJoins :
    ∃ k q values, ofSteps [.joinColumns "a.id" "b.a_id" .inner,
        .joinColumns "b.id" "a.b_id" .inner] = .ok k ∧
      k.build Backend.postgres.dialect .inline false = .ok (q, values) ∧
      q.sources = [] ∧ q.joins.length = 2 ∧
      q.text = "SELECT * FROM  INNER JOIN b ON a.id=b.a_id INNER JOIN a ON b.id=a.b_id" := by
  have hrun : ((ofSteps [.joinColumns "a.id" "b.a_id" .inner,
      .joinColumns "b.id" "a.b_id" .inner]).bind fun k =>
        (k.build Backend.postgres.dialect .inline false).map fun written =>
          (written.1.sources, written.1.joins.length, written.1.text))
        = .ok ([], 2,
          "SELECT * FROM  INNER JOIN b ON a.id=b.a_id INNER JOIN a ON b.id=a.b_id") := by
    decide +kernel
  obtain ⟨k, hsteps, hrun⟩ := except_bind_eq_ok_iff.mp hrun
  obtain ⟨⟨q, values⟩, hbuild, hq⟩ := except_map_eq_ok_iff.mp hrun
  simp only [Prod.mk.injEq] at hq
  exact ⟨k, q, values, hsteps, hbuild, hq⟩

/-! ### What the conditions see -/

/-- The tables that the joins hang on: the last one of the FROM list. -/
def joinScope (k : Criteria) : List String :=
  k.sourceTables.getLast?.toList

/-- The tables of the FROM list that a join condition mentions. -/
def mentionedSources (k : Criteria) : List String :=
  k.sourceTables.filter (· ∈ k.joinSources)

/-- The mentioned tables are those of some join's condition. -/
theorem mem_joinSources {table : String} :
    table ∈ k.joinSources ↔ ∃ join ∈ k.joins, table ∈ join.mentions := by
  have hsources : k.joinSources = k.joins.flatMap Join.mentions := List.flatMap_assoc
  rw [hsources, List.mem_flatMap]

/-- The tables that a join condition mentions come last in the FROM list. -/
theorem exists_sourceTables_eq (k : Criteria) :
    ∃ plain, k.sourceTables = plain ++ k.mentionedSources := by
  unfold mentionedSources sourceTables
  generalize k.joinSources = mentioned
  generalize k.tables.toList.filter (fun table => !k.joinTargets.contains table) = listed
  refine ⟨listed.filter (· ∉ mentioned), ?_⟩
  simp [Function.comp_def]

/-- A mentioned table stands once in the FROM list, so counting entries is counting tables. -/
theorem nodup_mentionedSources (hsteps : ofSteps steps = .ok k) : k.mentionedSources.Nodup := by
  unfold mentionedSources
  rw [sourceTables_of_ofSteps hsteps]
  exact (nodup_sourcesBy steps).filter _

/-- One table that the conditions mention is the last one of the FROM list, and of two tables only
one is. -/
theorem mentionedSources_subset_joinScope_iff (hsteps : ofSteps steps = .ok k) :
    (∀ table ∈ k.mentionedSources, table ∈ k.joinScope) ↔ k.mentionedSources.length ≤ 1 := by
  have hnodup := nodup_mentionedSources hsteps
  obtain ⟨plain, hsources⟩ := k.exists_sourceTables_eq
  unfold joinScope
  rw [hsources]
  match k.mentionedSources, hnodup with
  | [], _ => simp
  | [only], _ => simp
  | first :: second :: rest, hnodup =>
    refine ⟨fun h => ?_, fun h => by simp at h⟩
    -- The first and the second one cannot both be the last one.
    have hfirst := h first (by simp)
    have hsecond := h second (by simp)
    rw [Option.mem_toList] at hfirst hsecond
    rw [hfirst] at hsecond
    cases hsecond
    simp at hnodup

/-- Where no join mentions a table that is joined later, the conditions see all they mention exactly
if one table of the FROM list is enough for them. -/
theorem joinsScoped_iff_of_ofSteps (hsteps : ofSteps steps = .ok k)
    (hfresh : JoinedBeforeMention k.joins) :
    JoinsScoped k.joinScope k.joins ↔ k.mentionedSources.length ≤ 1 := by
  rw [joinsScoped_iff hfresh, ← mentionedSources_subset_joinScope_iff hsteps]
  constructor
  · intro h table htable
    obtain ⟨hsource, hmentioned⟩ := List.mem_filter.mp htable
    obtain ⟨join, hjoin, htable⟩ := mem_joinSources.mp (of_decide_eq_true hmentioned)
    refine (h join hjoin table htable).resolve_right fun hjoined => ?_
    -- A table of the FROM list is not joined.
    rw [sourceTables_of_ofSteps hsteps, mem_sourcesBy, ← joins_of_ofSteps hsteps] at hsource
    exact hsource.2 hjoined
  · intro h join hjoin table htable
    refine (mem_sourceTables_or_joined hsteps hjoin htable).imp_left fun hsource => h table ?_
    refine List.mem_filter.mpr ⟨hsource, decide_eq_true ?_⟩
    exact mem_joinSources.mpr ⟨join, hjoin, htable⟩

/-- Where no table is mentioned before it is joined, every join condition of a statement sees the
tables that it mentions exactly if the FROM list has at most one table that a condition mentions.
The entries and the joins of the statement are those of the criteria, in their order. -/
theorem joinsScoped_iff_of_build (hsteps : ofSteps steps = .ok k)
    (hbuild : k.build d mode quote = .ok (q, values)) (hfresh : JoinedBeforeMention k.joins) :
    List.Forall₂ (fun table entry => k.tableEntry (k.style d quote) table = .ok entry)
      k.sourceTables q.sources ∧
    List.Forall₂ (fun join text => ∃ entry used,
        k.tableEntry (k.style d quote) join.table = .ok entry ∧
        text = joinText (k.style d quote) mode join entry used) k.joins q.joins ∧
    (JoinsScoped k.joinScope k.joins ↔ k.mentionedSources.length ≤ 1) :=
  ⟨(entries_of_build hbuild).1, (entries_of_build hbuild).2, joinsScoped_iff_of_ofSteps hsteps hfresh⟩

/-- A chain, in which each table is joined to the one before it. -/
theorem joinsScoped_of_chain :
    ∃ k q values, ofSteps [.joinColumns "a.id" "b.a_id" .inner,
        .joinColumns "b.id" "c.b_id" .left] = .ok k ∧
      k.build Backend.postgres.dialect .inline false = .ok (q, values) ∧
      q.text = "SELECT * FROM a INNER JOIN b ON a.id=b.a_id LEFT JOIN c ON b.id=c.b_id" ∧
      JoinsScoped k.joinScope k.joins := by
  have hrun : ((ofSteps [.joinColumns "a.id" "b.a_id" .inner,
      .joinColumns "b.id" "c.b_id" .left]).bind fun k =>
        (k.build Backend.postgres.dialect .inline false).map fun written =>
          (written.1.text, decide (JoinedBeforeMention k.joins), k.mentionedSources))
        = .ok ("SELECT * FROM a INNER JOIN b ON a.id=b.a_id LEFT JOIN c ON b.id=c.b_id",
          true, ["a"]) := by
    decide +kernel
  obtain ⟨k, hsteps, hrun⟩ := except_bind_eq_ok_iff.mp hrun
  obtain ⟨⟨q, values⟩, hbuild, hk⟩ := except_map_eq_ok_iff.mp hrun
  simp only [Prod.mk.injEq, decide_eq_true_eq] at hk
  obtain ⟨htext, hfresh, hmentioned⟩ := hk
  refine ⟨k, q, values, hsteps, hbuild, htext, ?_⟩
  exact (joinsScoped_iff_of_build hsteps hbuild hfresh).2.2.mpr (by simp [hmentioned])

/-- Two joins of different tables to different tables: the condition of the first one mentions a
table that is hidden behind a comma. -/
theorem not_joinsScoped_of_twoPairs :
    ∃ k q values, ofSteps [.joinColumns "a.id" "b.a_id" .inner,
        .joinColumns "c.id" "d.c_id" .inner] = .ok k ∧
      k.build Backend.postgres.dialect .inline false = .ok (q, values) ∧
      q.text = "SELECT * FROM a, c INNER JOIN b ON a.id=b.a_id INNER JOIN d ON c.id=d.c_id" ∧
      k.joins.map (fun join => (join.table, join.mentions)) = [("b", ["a", "b"]), ("d", ["c", "d"])] ∧
      JoinedBeforeMention k.joins ∧ k.joinScope = ["c"] ∧ ¬ JoinsScoped k.joinScope k.joins := by
  have hrun : ((ofSteps [.joinColumns "a.id" "b.a_id" .inner,
      .joinColumns "c.id" "d.c_id" .inner]).bind fun k =>
        (k.build Backend.postgres.dialect .inline false).map fun written =>
          (written.1.text, k.joins.map fun join => (join.table, join.mentions),
            decide (JoinedBeforeMention k.joins), k.joinScope,
            decide (JoinsScoped k.joinScope k.joins)))
        = .ok ("SELECT * FROM a, c INNER JOIN b ON a.id=b.a_id INNER JOIN d ON c.id=d.c_id",
          [("b", ["a", "b"]), ("d", ["c", "d"])], true, ["c"], false) := by
    decide +kernel
  obtain ⟨k, hsteps, hrun⟩ := except_bind_eq_ok_iff.mp hrun
  obtain ⟨⟨q, values⟩, hbuild, hk⟩ := except_map_eq_ok_iff.mp hrun
  simp only [Prod.mk.injEq, decide_eq_true_eq, decide_eq_false_iff_not] at hk
  exact ⟨k, q, values, hsteps, hbuild, hk⟩

end Criteria

end SqlSelect
