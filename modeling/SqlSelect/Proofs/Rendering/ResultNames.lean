import Mathlib.Data.List.Nodup
import Mathlib.Data.List.Perm.Subperm
import SqlSelect.Proofs.Rendering.EntryNames

/-!
# `SqlSelect.Proofs.Rendering.ResultNames`: the names of the columns of a subquery

`aliasFrom` goes through the entries of a select list with the names that are taken. `Aliased` is
what it does with each entry, and `aliased_aliasFrom` says that it does no more. What is known of
the names comes from this relation by induction.

The names that are taken are those of the columns that have been passed, the aliases that have been
generated, and from the start all aliases that are given. So a generated alias differs from every
name in front of it and from every alias behind it, and the columns behind it give way to it: the
names in the result are distinct. But a column behind it may have had this name first, and it is
this column that gets another one.

* `Query.generatedAlias_freeNumber_notMem`: the alias that is searched for is free.
* `Query.Aliased.count_resultNames`: how often a name stands in the result.
* `Query.Aliased.nodup_resultNames`, `Query.resultNames_of_aliasDuplicates`: the names in the result
  are distinct, and which entries are changed.
* `Query.Aliased.split`: the names that are taken behind some of the entries.
* `Query.firstName_kept_iff`: when the first column of a name keeps it.
* `Query.firstName_lost`: a column that loses its name to a generated alias.
-/

set_option autoImplicit false

namespace SqlSelect.Query

open Column Text

/-! ### One entry after the other -/

/-- The search for a free alias never goes back. -/
theorem le_freeNumber (taken : List String) (fuel next : Nat) :
    next ≤ freeNumber taken fuel next := by
  induction fuel generalizing next with
  | zero => exact Nat.le_refl next
  | succ fuel ih =>
    unfold freeNumber
    split
    · exact Nat.le_of_succ_le (ih (next + 1))
    · exact Nat.le_refl next

/-- A search that ends at an alias that is taken has met no other ones. -/
theorem mem_of_freeNumber_mem {taken : List String} {fuel next : Nat}
    (h : generatedAlias (freeNumber taken fuel next) ∈ taken) :
    ∀ i < fuel + 1, generatedAlias (next + i) ∈ taken := by
  induction fuel generalizing next with
  | zero =>
    intro i hi
    obtain rfl : i = 0 := by omega
    exact h
  | succ fuel ih =>
    intro i hi
    unfold freeNumber at h
    split at h
    · rename_i htaken
      cases i with
      | zero => simpa using htaken
      | succ i =>
        have hlater := ih h i (by omega)
        rwa [Nat.add_assoc, Nat.add_comm 1 i] at hlater
    · -- The search stops at a free number, which the hypothesis says it does not.
      rename_i hfree
      exact absurd h (by simpa using hfree)

/-- Different names among those that are taken are at most as many as these. -/
theorem le_length_of_injective {name : Nat → String} (hname : Function.Injective name)
    {taken : List String} {count : Nat} (h : ∀ i < count, name i ∈ taken) :
    count ≤ taken.length := by
  have hnodup : ((List.range count).map name).Nodup := List.Nodup.map hname List.nodup_range
  have hsubset : (List.range count).map name ⊆ taken := by
    intro other hother
    obtain ⟨i, hi, rfl⟩ := List.mem_map.mp hother
    exact h i (List.mem_range.mp hi)
  have hlength := (hnodup.subperm hsubset).length_le
  rwa [List.length_map, List.length_range] at hlength

/-- There are not enough names to take all aliases that are tried. -/
theorem generatedAlias_freeNumber_notMem (taken : List String) (next : Nat) :
    generatedAlias (freeNumber taken taken.length next) ∉ taken := by
  intro h
  have hinjective : Function.Injective fun i => generatedAlias (next + i) := fun i j heq =>
    Nat.add_left_cancel (generatedAlias_injective heq)
  have hcount := le_length_of_injective hinjective (mem_of_freeNumber_mem h)
  omega

/-- What is made of the first entry, and with which names and which number it goes on. -/
theorem aliasFrom_cons (taken : List String) (next : Nat) (entry : String) (rest : List String) :
    aliasFrom taken next (entry :: rest) =
      match plainName? entry with
      | none => entry :: aliasFrom taken next rest
      | some name =>
        if name ∈ taken then
          let n := freeNumber taken taken.length next
          withAlias entry n :: aliasFrom (generatedAlias n :: taken) (n + 1) rest
        else entry :: aliasFrom (name :: taken) next rest := by
  rw [aliasFrom, plainName?]
  dsimp only
  split
  · rfl
  · rename_i hplain
    -- A plain name has no alias to cut off, so the expression is the trimmed entry.
    simp only [Bool.or_eq_true, not_or, Bool.not_eq_true, Option.isSome_eq_false_iff,
      Option.isNone_iff_eq_none] at hplain
    simp only [List.contains_iff_mem, withAlias, splitAlias_of_snd_eq_none hplain.1.2]

/-- Entries, the numbers of the aliases that are generated for some of them, and what becomes of the
entries, with the names that are taken and the least number to come. The first column of a name
takes it, and a later one gets an alias that is free. -/
inductive Aliased : List String → Nat → List String → List Nat → List String → Prop
  | nil {taken : List String} {next : Nat} : Aliased taken next [] [] []
  | unnamed {taken entries written : List String} {next : Nat} {numbers : List Nat} {entry : String}
      (hname : plainName? entry = none) (rest : Aliased taken next entries numbers written) :
      Aliased taken next (entry :: entries) numbers (entry :: written)
  | first {taken entries written : List String} {next : Nat} {numbers : List Nat}
      {entry name : String} (hname : plainName? entry = some name) (hnew : name ∉ taken)
      (rest : Aliased (name :: taken) next entries numbers written) :
      Aliased taken next (entry :: entries) numbers (entry :: written)
  | later {taken entries written : List String} {next : Nat} {numbers : List Nat}
      {entry name : String} {n : Nat} (hname : plainName? entry = some name) (htaken : name ∈ taken)
      (hnext : next ≤ n) (hfree : generatedAlias n ∉ taken)
      (rest : Aliased (generatedAlias n :: taken) (n + 1) entries numbers written) :
      Aliased taken next (entry :: entries) (n :: numbers) (withAlias entry n :: written)

/-- The relation holds of every run, so what is proved of it is proved of the function. -/
theorem aliased_aliasFrom (taken : List String) (next : Nat) (entries : List String) :
    ∃ numbers, Aliased taken next entries numbers (aliasFrom taken next entries) := by
  induction entries generalizing taken next with
  | nil => exact ⟨[], .nil⟩
  | cons entry rest ih =>
    rw [aliasFrom_cons]
    cases hname : plainName? entry with
    | none =>
      obtain ⟨numbers, hrest⟩ := ih taken next
      exact ⟨numbers, .unnamed hname hrest⟩
    | some name =>
      dsimp only
      split
      · rename_i htaken
        obtain ⟨numbers, hrest⟩ := ih _ _
        exact ⟨_ :: numbers, .later hname htaken (le_freeNumber taken _ next)
          (generatedAlias_freeNumber_notMem taken next) hrest⟩
      · rename_i hnew
        obtain ⟨numbers, hrest⟩ := ih _ _
        exact ⟨numbers, .first hname hnew hrest⟩

/-- A run for a subquery starts with the aliases that are given. -/
theorem aliased_aliasDuplicates (entries : List String) : ∃ numbers,
    Aliased (entries.filterMap existingAlias?) 0 entries numbers (aliasDuplicates entries) :=
  aliased_aliasFrom _ 0 entries

section Run

variable {taken before after entries written : List String} {next n : Nat} {numbers : List Nat}

/-- No entry is lost and none is added. -/
theorem Aliased.length_eq (h : Aliased taken next entries numbers written) :
    written.length = entries.length := by
  induction h with
  | nil => rfl
  | unnamed _ _ ih => rw [List.length_cons, List.length_cons, ih]
  | first _ _ _ ih => rw [List.length_cons, List.length_cons, ih]
  | later _ _ _ _ _ ih => rw [List.length_cons, List.length_cons, ih]

/-- There is one entry for each entry. -/
theorem length_aliasDuplicates (entries : List String) :
    (aliasDuplicates entries).length = entries.length := by
  obtain ⟨_, h⟩ := aliased_aliasDuplicates entries
  exact h.length_eq

/-- The numbers go up, and their aliases are free. -/
theorem Aliased.numbers_spec (h : Aliased taken next entries numbers written) :
    numbers.Pairwise (· < ·) ∧ ∀ n ∈ numbers, next ≤ n ∧ generatedAlias n ∉ taken := by
  induction h with
  | nil => simp
  | unnamed _ _ ih => exact ih
  | first _ _ _ ih =>
    refine ⟨ih.1, ?_⟩
    intro n hn
    obtain ⟨hle, hlater⟩ := ih.2 n hn
    exact ⟨hle, fun hmem => hlater (List.mem_cons_of_mem _ hmem)⟩
  | later _ _ hnext hfree _ ih =>
    -- The numbers behind start above this one, so all of them are greater.
    refine ⟨List.pairwise_cons.mpr ⟨fun n hn => (ih.2 n hn).1, ih.1⟩, ?_⟩
    intro n hn
    rcases List.mem_cons.mp hn with rfl | hn
    · exact ⟨hnext, hfree⟩
    · obtain ⟨hle, hlater⟩ := ih.2 n hn
      exact ⟨by omega, fun hmem => hlater (List.mem_cons_of_mem _ hmem)⟩

/-- The numbers are those of the aliases that are written. -/
theorem Aliased.mem_numbers_iff (h : Aliased taken next entries numbers written) :
    n ∈ numbers ↔ ∃ entry, (entry, withAlias entry n) ∈ entries.zip written := by
  -- An entry that stays is never an entry with an alias behind it.
  have hsame : ∀ {other entry : String} {pairs : List (String × String)},
      (other, withAlias other n) ∈ (entry, entry) :: pairs ↔
        (other, withAlias other n) ∈ pairs := by
    intro other entry pairs
    refine List.mem_cons.trans (or_iff_right fun heq => ?_)
    obtain ⟨rfl, hself⟩ := Prod.mk.injEq .. ▸ heq
    exact withAlias_ne_self other n hself
  induction h with
  | nil => simp
  | unnamed _ _ ih => simp only [List.zip_cons_cons, hsame, ih]
  | first _ _ _ ih => simp only [List.zip_cons_cons, hsame, ih]
  | later _ _ _ _ _ ih =>
    simp only [List.zip_cons_cons, List.mem_cons, exists_or, ih, Prod.mk.injEq]
    refine or_congr_left ⟨?_, ?_⟩
    · rintro rfl
      exact ⟨_, rfl, rfl⟩
    · rintro ⟨other, rfl, halias⟩
      exact withAlias_injective other halias

/-- The names that are taken behind some of the entries are those from before, those of columns and
those that have been generated. -/
theorem Aliased.split (h : Aliased taken next (before ++ after) numbers written) :
    ∃ numbers₁ numbers₂ written₁ written₂ taken' next', numbers = numbers₁ ++ numbers₂ ∧
      written = written₁ ++ written₂ ∧ Aliased taken next before numbers₁ written₁ ∧
      Aliased taken' next' after numbers₂ written₂ ∧
      ∀ name, name ∈ taken' ↔ name ∈ taken ∨ name ∈ before.filterMap plainName? ∨
        ∃ n ∈ numbers₁, generatedAlias n = name := by
  induction before generalizing taken next numbers written with
  | nil => exact ⟨[], numbers, [], written, taken, next, rfl, rfl, .nil, h, by simp⟩
  | cons entry before ih =>
    cases h with
    | unnamed hname rest =>
      obtain ⟨numbers₁, numbers₂, written₁, written₂, taken', next', rfl, rfl, h₁, h₂, hmem⟩ :=
        ih rest
      refine ⟨numbers₁, numbers₂, _, written₂, taken', next', rfl, rfl, .unnamed hname h₁, h₂, ?_⟩
      rwa [List.filterMap_cons_none hname]
    | first hname hnew rest =>
      obtain ⟨numbers₁, numbers₂, written₁, written₂, taken', next', rfl, rfl, h₁, h₂, hmem⟩ :=
        ih rest
      refine ⟨numbers₁, numbers₂, _, written₂, taken', next', rfl, rfl,
        .first hname hnew h₁, h₂, ?_⟩
      intro other
      rw [hmem, List.filterMap_cons_some hname, List.mem_cons, List.mem_cons]
      simp only [or_assoc, or_left_comm]
    | @later _ _ _ _ _ _ name n hname htaken hnext hfree rest =>
      obtain ⟨numbers₁, numbers₂, written₁, written₂, taken', next', rfl, rfl, h₁, h₂, hmem⟩ :=
        ih rest
      refine ⟨n :: numbers₁, numbers₂, _, written₂, taken', next', rfl, rfl,
        .later hname htaken hnext hfree h₁, h₂, ?_⟩
      intro other
      rw [hmem, List.filterMap_cons_some hname, List.exists_mem_cons_iff, List.mem_cons,
        List.mem_cons]
      -- The name of the column itself is one that was taken.
      have hold : other = name → other ∈ taken := fun heq => heq ▸ htaken
      grind

/-- How often a name stands in the result: as often as it is given, and once more if it was not
taken and is the name of a column or a generated alias. -/
theorem Aliased.count_resultNames {name : String}
    (h : Aliased taken next entries numbers written)
    (hread : ∀ entry ∈ entries, ∀ own, plainName? entry = some own → ∀ n,
      resultName? (withAlias entry n) = some name ↔ generatedAlias n = name) :
    (written.filterMap resultName?).count name = (entries.filterMap existingAlias?).count name
      + if name ∉ taken ∧
          (name ∈ entries.filterMap plainName? ∨ ∃ n ∈ numbers, generatedAlias n = name)
        then 1 else 0 := by
  induction h with
  | nil => simp
  | unnamed hname _ ih =>
    rw [List.forall_mem_cons] at hread
    rw [count_filterMap_cons, count_filterMap_cons, ih hread.2, List.filterMap_cons_none hname,
      resultName?_of_plainName?_eq_none hname, Nat.add_right_comm]
  | @first _ _ _ _ _ entry own hname hnew _ ih =>
    rw [List.forall_mem_cons] at hread
    rw [count_filterMap_cons, count_filterMap_cons, ih hread.2, List.filterMap_cons_some hname,
      existingAlias?_of_plainName? hname, resultName?_of_plainName? hname]
    -- From here on the name of this column is taken, so no other one counts.
    by_cases hsame : own = name
    · subst hsame
      simp [hnew]
    · simp [hsame, Ne.symm hsame]
  | @later taken _ _ _ _ entry own n hname htaken _ hfree _ ih =>
    rw [List.forall_mem_cons] at hread
    rw [count_filterMap_cons, count_filterMap_cons, ih hread.2, List.filterMap_cons_some hname,
      existingAlias?_of_plainName? hname, if_congr (hread.1 own hname n) rfl rfl]
    by_cases halias : generatedAlias n = name
    · subst halias
      simp [hfree]
    · by_cases hold : name ∈ taken
      · simp [halias, hold]
      · -- The column is named like one that was taken, so it is not the one that is counted.
        have hown : name ≠ own := fun heq => hold (heq ▸ htaken)
        simp [halias, Ne.symm halias, hold, hown]

/-- The names in the result are distinct if the names that are given are distinct and taken. -/
theorem Aliased.nodup_resultNames (h : Aliased taken next entries numbers written)
    (hparens : ∀ entry ∈ entries, ')' ∈ entry.toList → '(' ∈ entry.toList)
    (hgiven : ∀ name ∈ entries.filterMap existingAlias?, name ∈ taken)
    (hdistinct : (entries.filterMap existingAlias?).Nodup) :
    (written.filterMap resultName?).Nodup := by
  rw [List.nodup_iff_count_le_one] at hdistinct ⊢
  intro name
  rw [h.count_resultNames fun entry hentry own hplain n =>
    resultName?_withAlias_iff hplain (hparens entry hentry) n]
  have honce := hdistinct name
  by_cases hmem : name ∈ entries.filterMap existingAlias?
  · rw [if_neg fun hnew => hnew.1 (hgiven name hmem)]
    exact honce
  · rw [List.count_eq_zero.mpr hmem, Nat.zero_add]
    split <;> omega

/-- Entries, the numbers of the aliases that some of them get, and the entries with these aliases.
Only columns without an alias get one. -/
inductive Renamed : List String → List Nat → List String → Prop
  | nil : Renamed [] [] []
  | kept {entries written : List String} {numbers : List Nat} {entry : String}
      (rest : Renamed entries numbers written) :
      Renamed (entry :: entries) numbers (entry :: written)
  | aliased {entries written : List String} {numbers : List Nat} {entry name : String} {n : Nat}
      (hname : plainName? entry = some name) (rest : Renamed entries numbers written) :
      Renamed (entry :: entries) (n :: numbers) (withAlias entry n :: written)

/-- Entries are changed by aliases only, and only those with a name of their own. -/
theorem Aliased.renamed (h : Aliased taken next entries numbers written) :
    Renamed entries numbers written := by
  induction h with
  | nil => exact .nil
  | unnamed _ _ ih => exact .kept ih
  | first _ _ _ ih => exact .kept ih
  | later hname _ _ _ _ ih => exact .aliased hname ih

/-- The columns of a subquery have distinct names if the aliases that are given are distinct. Calls,
`*` and entries with an alias stay as they are. Columns stay, too, or get an alias that is not
given, with numbers that go up. -/
theorem resultNames_of_aliasDuplicates
    (hparens : ∀ entry ∈ entries, ')' ∈ entry.toList → '(' ∈ entry.toList)
    (hdistinct : (entries.filterMap existingAlias?).Nodup) :
    (aliasDuplicates entries).length = entries.length ∧
      ((aliasDuplicates entries).filterMap resultName?).Nodup ∧
      ∃ numbers, Renamed entries numbers (aliasDuplicates entries) ∧ numbers.Pairwise (· < ·) ∧
        ∀ n ∈ numbers, generatedAlias n ∉ entries.filterMap existingAlias? := by
  obtain ⟨numbers, h⟩ := aliased_aliasDuplicates entries
  obtain ⟨hnumbers, hfree⟩ := h.numbers_spec
  exact ⟨length_aliasDuplicates entries,
    h.nodup_resultNames hparens (fun _ hmem => hmem) hdistinct,
    numbers, h.renamed, hnumbers, fun n hn => (hfree n hn).2⟩

/-- Columns of one name, a column that is named like an alias, and two aliases that are given. -/
theorem resultNames_of_aliasDuplicates_shared :
    let entries := ["t.c", "u.c ", "v.a1", "w.c", "MAX(t.c) a0", "*", "t.d AS a2"]
    let written := ["t.c", "u.c a1", "v.a1 a3", "w.c a4", "MAX(t.c) a0", "*", "t.d AS a2"]
    (∀ entry ∈ entries, ')' ∈ entry.toList → '(' ∈ entry.toList) ∧
      (entries.filterMap existingAlias?).Nodup ∧ aliasDuplicates entries = written ∧
      (written.filterMap resultName?).Nodup := by
  intro entries written
  have hparens : ∀ entry ∈ entries, ')' ∈ entry.toList → '(' ∈ entry.toList := by
    decide +kernel
  have hdistinct : (entries.filterMap existingAlias?).Nodup := by
    decide +kernel
  have hwritten : aliasDuplicates entries = written := by
    decide +kernel
  obtain ⟨-, hnames, -⟩ := resultNames_of_aliasDuplicates hparens hdistinct
  rw [hwritten] at hnames
  exact ⟨hparens, hdistinct, hwritten, hnames⟩

/-! ### The first column of a name -/

/-- A column keeps a name that is not taken. Either way no later alias takes this name. -/
theorem Aliased.head_kept_iff {entry name : String}
    (h : Aliased taken next (entry :: after) numbers written)
    (hname : plainName? entry = some name) :
    (written[0]? = some entry ↔ name ∉ taken) ∧
      ∀ other n, (other, withAlias other n) ∈ after.zip (written.drop 1) →
        generatedAlias n ≠ name := by
  cases h with
  | unnamed hnone _ =>
    rw [hname] at hnone
    cases hnone
  | first hown hnew rest =>
    obtain rfl := Option.some.inj (hname.symm.trans hown)
    refine ⟨iff_of_true rfl hnew, ?_⟩
    intro other n hmem heq
    have hfree := (rest.numbers_spec.2 n (rest.mem_numbers_iff.mpr ⟨other, hmem⟩)).2
    exact hfree (heq ▸ List.mem_cons_self)
  | @later _ _ others _ _ _ _ m hown htaken _ _ rest =>
    obtain rfl := Option.some.inj (hname.symm.trans hown)
    -- The entry gets an alias, and with it it is another entry.
    have hchanged : (withAlias entry m :: others)[0]? ≠ some entry := fun hsame =>
      withAlias_ne_self entry m (Option.some.inj hsame)
    refine ⟨iff_of_false hchanged (not_not_intro htaken), ?_⟩
    intro other n hmem heq
    have hfree := (rest.numbers_spec.2 n (rest.mem_numbers_iff.mpr ⟨other, hmem⟩)).2
    exact hfree (heq ▸ List.mem_cons_of_mem _ htaken)

/-- The first column of a name keeps it if no alias that is generated in front of it takes this
name. No alias that is generated behind it does. -/
theorem firstName_kept_iff {entry name : String} (hname : plainName? entry = some name)
    (hfirst : name ∉ before.filterMap plainName?)
    (hgiven : name ∉ (before ++ entry :: after).filterMap existingAlias?) :
    ((aliasDuplicates (before ++ entry :: after))[before.length]? = some entry ↔
        ∀ other n, (other, withAlias other n)
            ∈ before.zip (aliasDuplicates (before ++ entry :: after)) →
          generatedAlias n ≠ name) ∧
      ∀ other n, (other, withAlias other n)
          ∈ after.zip ((aliasDuplicates (before ++ entry :: after)).drop (before.length + 1)) →
        generatedAlias n ≠ name := by
  obtain ⟨numbers, h⟩ := aliased_aliasDuplicates (before ++ entry :: after)
  obtain ⟨numbers₁, numbers₂, written₁, written₂, taken, next, -, hwritten, h₁, h₂, htaken⟩ :=
    h.split
  have hlength := h₁.length_eq
  -- The name can be taken only by an alias that is generated in front of it.
  have hfree : name ∉ taken ↔ ∀ other n,
      (other, withAlias other n) ∈ before.zip written₁ → generatedAlias n ≠ name := by
    rw [htaken, or_iff_right hgiven, or_iff_right hfirst]
    simp only [h₁.mem_numbers_iff]
    grind
  have hfront : before.zip (written₁ ++ written₂) = before.zip written₁ := by
    have happend : (before ++ []).zip (written₁ ++ written₂)
        = before.zip written₁ ++ [].zip written₂ := List.zip_append hlength.symm
    rwa [List.append_nil, List.zip_nil_left, List.append_nil] at happend
  obtain ⟨hkept, hbehind⟩ := h₂.head_kept_iff hname
  rw [hwritten, hfront, ← hfree, ← hkept, ← hlength, List.getElem?_append_right (Nat.le_refl _),
    Nat.sub_self, List.drop_length_add_append]
  exact ⟨Iff.rfl, hbehind⟩

/-- The alias that is generated for the second column has another number than the third has in its
name. -/
theorem firstName_kept_iff_otherNumber :
    plainName? "t.a1" = some "a1" ∧ "a1" ∉ ["t.c", "u.c"].filterMap plainName? ∧
      "a1" ∉ (["t.c", "u.c"] ++ "t.a1" :: []).filterMap existingAlias? ∧
      (aliasDuplicates (["t.c", "u.c"] ++ "t.a1" :: []))[2]? = some "t.a1" := by
  have hname : plainName? "t.a1" = some "a1" := by decide +kernel
  have hfirst : "a1" ∉ ["t.c", "u.c"].filterMap plainName? := by decide +kernel
  have hgiven : "a1" ∉ (["t.c", "u.c"] ++ "t.a1" :: []).filterMap existingAlias? := by
    decide +kernel
  have hwritten : aliasDuplicates (["t.c", "u.c"] ++ "t.a1" :: []) = ["t.c", "u.c a0", "t.a1"] := by
    decide +kernel
  refine ⟨hname, hfirst, hgiven, (firstName_kept_iff hname hfirst hgiven).1.mpr ?_⟩
  intro other n hmem
  simp only [hwritten, List.zip_cons_cons, List.zip_nil_left, List.mem_cons, List.not_mem_nil,
    or_false, Prod.mk.injEq] at hmem
  rcases hmem with ⟨rfl, hsame⟩ | ⟨rfl, halias⟩
  · exact absurd hsame (withAlias_ne_self _ n)
  · obtain rfl : n = 0 := withAlias_injective "u.c" (halias.trans (by decide +kernel))
    decide +kernel

/-- A column that loses its name, which no column in front of it has and no alias that is given. The
alias that is generated in front of it does not regard it. -/
theorem firstName_lost :
    plainName? "t.a0" = some "a0" ∧ "a0" ∉ ["t.c", "u.c"].filterMap plainName? ∧
      "a0" ∉ ["t.c", "u.c", "t.a0"].filterMap existingAlias? ∧
      aliasDuplicates ["t.c", "u.c", "t.a0"] = ["t.c", "u.c a0", "t.a0 a1"] := by
  decide +kernel

end Run

end SqlSelect.Query
