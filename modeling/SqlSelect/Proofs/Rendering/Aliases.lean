import SqlSelect.Criteria.Step
import SqlSelect.Proofs.Rendering.AliasSearch
import SqlSelect.Proofs.Rendering.Faults

/-!
# `SqlSelect.Proofs.Rendering.Aliases`: the length of aliases

A dialect limits the length of aliases. `Criteria.build` checks those that the criteria hold under a
name: the aliases of the select list and the table aliases that are written. It does not look at an
alias inside a select column, and not at the aliases that are generated for a subquery.

* `Query.length_generatedAlias_le`: a generated alias is as long as the number of columns at most,
  but for one character.
* `Criteria.aliases_of_build`: what is checked, what is not, and what is known of the latter.
* `Criteria.build_ok_of_longAliases`: two statements with an alias that is too long.
-/

set_option autoImplicit false

namespace SqlSelect

namespace Query

/-! ### Generated aliases -/

/-- An alias with a number below the number of columns is one character longer than that number at
most. -/
theorem length_generatedAlias_le {n count : Nat} (h : n < count) :
    (generatedAlias n).length ≤ (toString count).length + 1 := by
  have hlength : ∀ m : Nat, (toString m).length = (Nat.toDigits 10 m).length := by
    intro m
    rw [← String.length_toList, Number.toList_toString]
    rfl
  have hpos : 0 < (Nat.toDigits 10 count).length := Nat.length_toDigits_pos
  have hcount : count < 10 ^ (Nat.toDigits 10 count).length :=
    (Nat.length_toDigits_le_iff (by decide) hpos).mp (Nat.le_refl _)
  have hdigits : (Nat.toDigits 10 n).length ≤ (Nat.toDigits 10 count).length :=
    (Nat.length_toDigits_le_iff (by decide) hpos).mpr (Nat.lt_trans h hcount)
  have halias : (generatedAlias n).length = 1 + (toString n).length :=
    String.length_append "a" (toString n)
  rw [halias, hlength, hlength]
  omega

/-- Limiting rows leaves the select list alone, but for a subquery. -/
theorem columns_of_limited {σ : Type} {q r : Query σ} {limit offset : Option Int}
    {means : Pagination} (h : q.limited limit offset means = .ok r) :
    r.columns = q.columns ∨ r.columns = aliasDuplicates q.columns := by
  rcases limited_eq_ok_cases h with ⟨_, _, _, _, rfl⟩ | ⟨_, _, _, _, rfl⟩ | ⟨_, rfl⟩
  · exact .inl rfl
  · exact .inl rfl
  · exact .inr rfl

/-- Limiting rows leaves the select list alone or puts aliases into it. -/
theorem columns_of_paginate {σ : Type} {q r : Query σ} {d : Dialect} {limit offset : Option Int}
    (h : q.paginate d limit offset = .ok r) :
    r.columns = q.columns ∨ r.columns = aliasDuplicates q.columns := by
  rcases paginate_eq_ok_cases h with ⟨_, _, rfl⟩ | ⟨_, hlimited⟩
  · exact .inl rfl
  · exact columns_of_limited hlimited

end Query

namespace Criteria

variable (k : Criteria)

/-! ### The select list -/

/-- The entries of the select list as they are before a subquery is made of it. -/
def selectEntries (s : Style) : List String :=
  let entries := k.selectColumns.toList.map s.identifier ++
    k.namedColumns.entries.map fun entry => s.identifier entry.2 ++ " AS " ++ entry.1
  if entries.isEmpty then [k.allColumns s] else entries

/-- A check that succeeds returns what it was given. -/
theorem identifier_of_checkedIdentifier {d : Dialect} {name name' : String}
    (h : checkedIdentifier d name = .ok name') : name' = name := by
  unfold checkedIdentifier at h
  split at h
  · cases h
  · cases h
    rfl

/-- A select list that is written has the entries in the order of the criteria. -/
theorem selectEntries_of_selectList {s : Style} {columns : List String}
    (h : k.selectList s = .ok columns) : columns = k.selectEntries s := by
  have hentry : ∀ (entry : String × String) (written : String),
      namedEntry s entry = .ok written → written = s.identifier entry.2 ++ " AS " ++ entry.1 := by
    intro entry written hwritten
    obtain ⟨name, hname, rfl⟩ := except_map_eq_ok_iff.mp hwritten
    rw [identifier_of_checkedIdentifier hname]
  obtain ⟨named, hnamed, rfl⟩ := except_map_eq_ok_iff.mp h
  rw [eq_map_of_mapM hentry hnamed]
  rfl

/-- The select list of a statement has an entry for each column, with a generated alias or
without. -/
theorem columns_of_build {d : Dialect} {mode : RenderMode} {quote : Bool} {q : Query String}
    {values : List SqlValue} (h : k.build d mode quote = .ok (q, values)) :
    q.columns = k.selectEntries (k.style d quote) ∨
      q.columns = Query.aliasDuplicates (k.selectEntries (k.style d quote)) := by
  obtain ⟨clauses, limited, hclauses, hpaginate, rfl⟩ := exists_of_build h
  obtain ⟨hcolumns, -⟩ := eq_of_clauses hclauses
  have hlimited := Query.columns_of_paginate hpaginate
  rwa [k.selectEntries_of_selectList hcolumns] at hlimited

/-- The first alias that is too long, and no other one, is in the error. -/
theorem findSome?_lengthError? (d : Dialect) (names : List String) :
    names.findSome? d.lengthError?
      = (names.find? (d.maxIdentifierLength < ·.length)).map fun name =>
          QueryError.identifierTooLong name d.name d.maxIdentifierLength := by
  induction names with
  | nil => rfl
  | cons name names ih =>
    rw [List.findSome?_cons, List.find?_cons, ih]
    by_cases hlong : d.maxIdentifierLength < name.length
    · simp [Dialect.lengthError?, hlong]
    · simp [Dialect.lengthError?, hlong]

/-- A statement that is written has no alias of the select list and no table alias that is too long,
and otherwise the error says which one is the first. The aliases inside select columns have no part
in it. Those that are generated have none either, but each is at most one character longer than the
number of columns. -/
theorem aliases_of_build (d : Dialect) (mode : RenderMode) (quote : Bool) :
    (∀ q values, k.build d mode quote = .ok (q, values) →
        (∀ name ∈ k.namedColumns.names ++ k.writtenTableAliases,
          name.length ≤ d.maxIdentifierLength) ∧
        ∀ entry ∈ q.columns, entry ∈ k.selectEntries (k.style d quote) ∨
          ∃ n expression, entry = expression ++ " " ++ Query.generatedAlias n ∧
            (Query.generatedAlias n).length ≤ (toString q.columns.length).length + 1) ∧
      (∀ name, k.build d mode quote
          = .error (.identifierTooLong name d.name d.maxIdentifierLength) ↔
        (k.namedColumns.names ++ k.writtenTableAliases).find? (d.maxIdentifierLength < ·.length)
          = some name) ∧
      ∀ (columns : UniqueList String) (e : QueryError),
        { k with selectColumns := columns }.build d mode quote = .error e ↔
          k.build d mode quote = .error e := by
  refine ⟨fun q values hbuild => ⟨?_, ?_⟩, fun name => ?_, fun columns e => ?_⟩
  · have hnone : k.offences d = [] := by
      rw [← List.head?_eq_none_iff, ← k.errorOf?_build d mode quote, hbuild]
      rfl
    exact ((k.offences_eq_nil_iff d).mp hnone).1
  · intro entry hentry
    rcases k.columns_of_build hbuild with hcolumns | hcolumns
    · exact .inl (hcolumns ▸ hentry)
    · have hlength : q.columns.length = (k.selectEntries (k.style d quote)).length := by
        rw [hcolumns, Query.length_aliasDuplicates]
      rw [hcolumns] at hentry
      rw [hlength]
      refine (Query.of_mem_aliasDuplicates hentry).imp_right ?_
      rintro ⟨n, hn, expression, rfl⟩
      exact ⟨n, expression, rfl, Query.length_generatedAlias_le hn⟩
  · rw [← errorOf?_eq_some_iff, errorOf?_build, offences, List.head?_append, List.head?_filterMap,
      findSome?_lengthError?, Option.head?_toList]
    cases (k.namedColumns.names ++ k.writtenTableAliases).find?
        (d.maxIdentifierLength < ·.length) with
    | some first => simp
    | none =>
      -- The bounds have errors of their own.
      simp [Dialect.paginationError?]
  · rw [← errorOf?_eq_some_iff, ← errorOf?_eq_some_iff, errorOf?_build, errorOf?_build]
    rfl

/-- A dialect that numbers rows and limits names to one character. -/
def narrowDialect : Dialect where
  name := "narrow"
  openQuote := '"'
  closeQuote := '"'
  placeholder := Backend.numbered "?"
  pagination := .rowNumber
  booleanText := Backend.booleanDigits
  maxIdentifierLength := 1

/-- What is seen of a statement is seen of one that was built and written. -/
theorem exists_of_map_build {α : Type} {steps : List Step} {d : Dialect} {view : Query String → α}
    {seen : α} (h : ((ofSteps steps).bind fun k =>
      (k.build d .inline false).map fun written => view written.1) = .ok seen) :
    ∃ k q values, ofSteps steps = .ok k ∧ k.build d .inline false = .ok (q, values) ∧
      view q = seen := by
  obtain ⟨k, hsteps, hrun⟩ := except_bind_eq_ok_iff.mp h
  obtain ⟨⟨q, values⟩, hbuild, hview⟩ := except_map_eq_ok_iff.mp hrun
  exact ⟨k, q, values, hsteps, hbuild, hview⟩

/-- Statements that are written with an alias that is too long: one that is generated for the second
of two columns of one name, and one that a select column has of its own. -/
theorem build_ok_of_longAliases :
    ((∃ k q values, ofSteps [.select "t.c", .select "u.c", .setLimit 5] = .ok k ∧
        k.build narrowDialect .inline false = .ok (q, values) ∧ q.columns = ["t.c", "u.c a0"]) ∧
      Query.existingAlias? "u.c a0" = some "a0" ∧
      narrowDialect.maxIdentifierLength < "a0".length) ∧
    (∃ k q values, ofSteps [.select "t.c a_very_long_alias_name_over_thirty"] = .ok k ∧
        k.build Backend.oracle.dialect .inline false = .ok (q, values) ∧
        q.columns = ["t.c a_very_long_alias_name_over_thirty"]) ∧
      Query.existingAlias? "t.c a_very_long_alias_name_over_thirty"
        = some "a_very_long_alias_name_over_thirty" ∧
      Backend.oracle.dialect.maxIdentifierLength < "a_very_long_alias_name_over_thirty".length := by
  have hgenerated : ((ofSteps [.select "t.c", .select "u.c", .setLimit 5]).bind fun k =>
      (k.build narrowDialect .inline false).map fun written => written.1.columns)
        = .ok ["t.c", "u.c a0"] := by
    decide +kernel
  have hselected : ((ofSteps [.select "t.c a_very_long_alias_name_over_thirty"]).bind fun k =>
      (k.build Backend.oracle.dialect .inline false).map fun written => written.1.columns)
        = .ok ["t.c a_very_long_alias_name_over_thirty"] := by
    decide +kernel
  exact ⟨⟨exists_of_map_build hgenerated, by decide +kernel, by decide⟩,
    exists_of_map_build hselected, by decide +kernel, by decide⟩

end Criteria

end SqlSelect
