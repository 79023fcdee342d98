import SqlSelect.Proofs.Rendering.ResultNames

/-!
# `SqlSelect.Proofs.Rendering.SettledNames`: select lists that need no aliases

`aliasDuplicates` leaves a select list as it is exactly if its columns have names of their own:
different ones, and none that is given as an alias. The lists that it makes are of this kind, so it
changes nothing when it is run on one of them.

A second run does not start as the first one did. The aliases that the first one has generated are
read off the entries, and they are taken from the start. A column that the first run has passed
before it came to an alias might now be in the way of this alias. It is not, because no name of a
column is generated behind it, and because every alias is read back as the alias or the column that
it was written for.

* `Query.aliasDuplicates_eq_self_iff`: the select lists that stay as they are.
* `Query.Aliased.plainName_notMem`: the names of the columns that are left are new ones.
* `Query.aliasDuplicates_aliasDuplicates`: a second run changes nothing.
-/

set_option autoImplicit false

namespace SqlSelect.Query

open Column

/-- Entries stay as they are if their columns have different names, none of which is taken. -/
theorem aliasFrom_eq_self_iff (taken : List String) (next : Nat) (entries : List String) :
    aliasFrom taken next entries = entries ↔ (entries.filterMap plainName?).Nodup ∧
      ∀ name ∈ entries.filterMap plainName?, name ∉ taken := by
  induction entries generalizing taken next with
  | nil => simp [aliasFrom]
  | cons entry rest ih =>
    rw [aliasFrom_cons]
    cases hname : plainName? entry with
    | none =>
      dsimp only
      rw [List.filterMap_cons_none hname, List.cons_inj_right, ih]
    | some name =>
      rw [List.filterMap_cons_some hname, List.nodup_cons, List.forall_mem_cons]
      dsimp only
      split
      · -- The entry gets an alias, and with it it is another entry.
        rename_i htaken
        refine iff_of_false (fun hsame => ?_) fun h => h.2.1 htaken
        exact withAlias_ne_self entry _ (List.cons.inj hsame).1
      · -- The name is taken from here on, which keeps the names behind it different from it.
        rename_i hnew
        rw [List.cons_inj_right, ih]
        simp only [List.mem_cons, not_or]
        constructor
        · rintro ⟨hnodup, hother⟩
          refine ⟨⟨fun hmem => (hother name hmem).1 rfl, hnodup⟩, hnew, ?_⟩
          exact fun other hmem => (hother other hmem).2
        · rintro ⟨⟨hnotMem, hnodup⟩, -, hother⟩
          refine ⟨hnodup, fun other hmem => ⟨?_, hother other hmem⟩⟩
          rintro rfl
          exact hnotMem hmem

/-- A select list stays as it is exactly if its columns have different names, none of which is given
as an alias. -/
theorem aliasDuplicates_eq_self_iff (entries : List String) :
    aliasDuplicates entries = entries ↔ (entries.filterMap plainName?).Nodup ∧
      ∀ name ∈ entries.filterMap plainName?, name ∉ entries.filterMap existingAlias? :=
  aliasFrom_eq_self_iff _ 0 entries

section Run

variable {taken entries written : List String} {next : Nat} {numbers : List Nat}

/-- What is a column without an alias in the end has a name that was not taken. -/
theorem Aliased.plainName_notMem (h : Aliased taken next entries numbers written)
    (hparens : ∀ entry ∈ entries, ')' ∈ entry.toList → '(' ∈ entry.toList) :
    ∀ entry ∈ written, ∀ name, plainName? entry = some name → name ∉ taken := by
  induction h with
  | nil => simp
  | unnamed hnone _ ih =>
    rw [List.forall_mem_cons] at hparens ⊢
    refine ⟨?_, ih hparens.2⟩
    intro name hname
    rw [hnone] at hname
    cases hname
  | first hown hnew _ ih =>
    rw [List.forall_mem_cons] at hparens ⊢
    refine ⟨?_, fun entry hentry name hname => ?_⟩
    · intro name hname
      obtain rfl := Option.some.inj (hown.symm.trans hname)
      exact hnew
    · exact mt (List.mem_cons_of_mem _) (ih hparens.2 entry hentry name hname)
  | later hown _ _ hfree _ ih =>
    rw [List.forall_mem_cons] at hparens ⊢
    refine ⟨?_, fun entry hentry name hname => ?_⟩
    · -- With nothing in front of it, the alias is the name of a column.
      intro name hname
      have hread := resultName?_of_plainName? hname
      obtain rfl := (resultName?_withAlias_iff hown hparens.1 _).mp hread
      exact hfree
    · exact mt (List.mem_cons_of_mem _) (ih hparens.2 entry hentry name hname)

/-- A select list in which no parenthesis is only closed gets all its aliases at once. The aliases
that are given may be repeated. -/
theorem aliasDuplicates_aliasDuplicates
    (hparens : ∀ entry ∈ entries, ')' ∈ entry.toList → '(' ∈ entry.toList) :
    aliasDuplicates (aliasDuplicates entries) = aliasDuplicates entries := by
  obtain ⟨numbers, h⟩ := aliased_aliasDuplicates entries
  -- The name of a column stands in the result once, be it for a column or as an alias.
  have honce : ∀ name ∈ (aliasDuplicates entries).filterMap plainName?,
      ((aliasDuplicates entries).filterMap existingAlias?).count name
        + ((aliasDuplicates entries).filterMap plainName?).count name ≤ 1 := by
    intro name hmem
    obtain ⟨entry, hentry, hname⟩ := List.mem_filterMap.mp hmem
    have hnew := h.plainName_notMem hparens entry hentry name hname
    rw [← count_resultNames,
      h.count_resultNames fun entry hentry own hown n =>
        resultName?_withAlias_iff hown (hparens entry hentry) n,
      List.count_eq_zero.mpr hnew, Nat.zero_add]
    split <;> omega
  refine (aliasDuplicates_eq_self_iff _).mpr ⟨?_, ?_⟩
  · -- A name that no column has counts nothing, whatever the aliases are.
    rw [List.nodup_iff_count_le_one]
    intro name
    by_cases hmem : name ∈ (aliasDuplicates entries).filterMap plainName?
    · exact Nat.le_trans (Nat.le_add_left _ _) (honce name hmem)
    · rw [List.count_eq_zero.mpr hmem]
      exact Nat.zero_le 1
  · intro name hmem hgiven
    have hcolumn := List.count_pos_iff.mpr hmem
    have halias := List.count_pos_iff.mpr hgiven
    have hle := honce name hmem
    omega

/-- Entries of blanks, blanks and tabs around and in entries, an alias that is given twice, and
columns that are named like aliases. -/
theorem aliasDuplicates_aliasDuplicates_blankEntries :
    let entries := ["", " ", "t.c", "\tu.c ", "v.c\tx", "w.c\tx", "v.a0", "t.d a7", "u.d AS a7",
      "MAX(t.c) a1", "w.a4", "*", "t.*", "x.c"]
    let written := ["", " a0", "t.c", "u.c a2", "v.c\tx", "w.c\tx a3", "v.a0 a4", "t.d a7",
      "u.d AS a7", "MAX(t.c) a1", "w.a4 a5", "*", "t.*", "x.c a6"]
    (∀ entry ∈ entries, ')' ∈ entry.toList → '(' ∈ entry.toList) ∧
      aliasDuplicates entries = written ∧ aliasDuplicates written = written := by
  intro entries written
  have hparens : ∀ entry ∈ entries, ')' ∈ entry.toList → '(' ∈ entry.toList := by
    decide +kernel
  have hwritten : aliasDuplicates entries = written := by
    decide +kernel
  have htwice := aliasDuplicates_aliasDuplicates hparens
  rw [hwritten] at htwice
  exact ⟨hparens, hwritten, htwice⟩

/-- Behind a parenthesis that is only closed an alias is not told apart, and what the first run
writes is a duplicate for the second. -/
example : aliasDuplicates ["x)", "x)", "x) a0"] = ["x)", "x) a0", "x) a0"] ∧
    aliasDuplicates ["x)", "x) a0", "x) a0"] = ["x)", "x) a0", "x) a0 a0"] := by
  decide +kernel

end Run

end SqlSelect.Query
