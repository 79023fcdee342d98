import Mathlib.Data.List.Infix
import SqlSelect.Proofs.Digits
import SqlSelect.Proofs.Trimming
import SqlSelect.Query.SelectAlias

/-!
# `SqlSelect.Proofs.Rendering.EntryNames`: the names of entries of a select list

A column of the result has the alias of its entry, or the name of the column in it. Calls of
functions and `*` have no name without an alias. An entry with a generated alias is a text again,
and what is read off it is this alias.

* `Query.plainName?_eq_some_iff`: the entries that have a name of their own.
* `Query.withAlias_ne_self`: an alias makes another entry of an entry.
* `Query.count_resultNames`: names come from aliases and from columns.
* `Query.resultName?_withAlias`, `Query.isSuffix_of_resultName?_withAlias`: a generated alias is
  read back.
-/

set_option autoImplicit false

namespace SqlSelect.Query

open Column Text

/-! ### The name of an entry -/

/-- The name of a column without an alias. A call of a function has none, and neither has `*`. -/
def plainName? (entry : String) : Option String :=
  let (expression, given) := splitAlias entry
  if isFunction entry || given.isSome || columnName expression == "*" then none
  else some (columnName expression)

/-- The name that an entry has in the result. -/
def resultName? (entry : String) : Option String :=
  (existingAlias? entry).or (plainName? entry)

/-- The trimmed entry with the generated alias of a number. -/
def withAlias (entry : String) (n : Nat) : String :=
  String.ofList (trim entry.toList) ++ " " ++ generatedAlias n

/-- An entry without an alias is its expression, trimmed. -/
theorem splitAlias_of_snd_eq_none {entry : String} (h : (splitAlias entry).2 = none) :
    splitAlias entry = (String.ofList (trim entry.toList), none) := by
  unfold splitAlias at h ⊢
  dsimp only at h ⊢
  split
  · rfl
  · rename_i hparens
    rw [if_neg hparens] at h
    cases hsplit : splitAtLast? ' ' (trim entry.toList) with
    | none => rfl
    | some parts =>
      rw [hsplit] at h
      cases h

/-- The entries with a name of their own: columns, without an alias and not `*`. -/
theorem plainName?_eq_some_iff {entry name : String} : plainName? entry = some name ↔
    isFunction entry = false ∧ (splitAlias entry).2 = none ∧
      columnName (splitAlias entry).1 = name ∧ name ≠ "*" := by
  simp only [plainName?, Option.ite_none_left_eq_some, Bool.or_eq_true, not_or, Bool.not_eq_true,
    Option.isSome_eq_false_iff, Option.isNone_iff_eq_none, beq_iff_eq, Option.some.injEq, and_assoc]
  refine and_congr_right fun _ => and_congr_right fun _ => ?_
  constructor
  · rintro ⟨hname, rfl⟩
    exact ⟨rfl, hname⟩
  · rintro ⟨rfl, hname⟩
    exact ⟨hname, rfl⟩

variable {entry name : String} {n : Nat}

/-- A plain column has no alias. -/
theorem existingAlias?_of_plainName? (h : plainName? entry = some name) :
    existingAlias? entry = none := by
  obtain ⟨hfunction, hgiven, -, -⟩ := plainName?_eq_some_iff.mp h
  rw [existingAlias?, hfunction, if_neg Bool.false_ne_true, hgiven]

/-- The name of a column is its name in the result. -/
theorem resultName?_of_plainName? (h : plainName? entry = some name) :
    resultName? entry = some name := by
  rw [resultName?, existingAlias?_of_plainName? h, h, Option.none_or]

/-- Any other entry has a name in the result only by an alias. -/
theorem resultName?_of_plainName?_eq_none (h : plainName? entry = none) :
    resultName? entry = existingAlias? entry := by
  rw [resultName?, h, Option.or_none]

/-- One more entry adds its name, if it has one. -/
theorem count_filterMap_cons (f : String → Option String) (entry : String) (entries : List String)
    (name : String) : ((entry :: entries).filterMap f).count name
      = (entries.filterMap f).count name + if f entry = some name then 1 else 0 := by
  simp only [List.count_filterMap, List.countP_cons, beq_iff_eq]

/-- An entry has its name from its alias or from its column, but not from both. -/
theorem count_resultNames (entries : List String) (name : String) :
    (entries.filterMap resultName?).count name
      = (entries.filterMap existingAlias?).count name
        + (entries.filterMap plainName?).count name := by
  induction entries with
  | nil => rfl
  | cons entry entries ih =>
    rw [count_filterMap_cons, count_filterMap_cons, count_filterMap_cons, ih]
    cases hplain : plainName? entry with
    | none =>
      rw [resultName?_of_plainName?_eq_none hplain, if_neg (Option.some_ne_none name).symm]
      omega
    | some own =>
      rw [resultName?_of_plainName? hplain, existingAlias?_of_plainName? hplain,
        if_neg (Option.some_ne_none name).symm]
      omega

/-- A name in the result comes from an alias or from a column. -/
theorem mem_resultNames_iff (entries : List String) (name : String) :
    name ∈ entries.filterMap resultName? ↔
      name ∈ entries.filterMap existingAlias? ∨ name ∈ entries.filterMap plainName? := by
  simp only [← List.count_pos_iff, count_resultNames, Nat.add_pos_iff_pos_or_pos]

/-! ### Entries with generated aliases -/

/-- Different numbers make different aliases. -/
theorem generatedAlias_injective : Function.Injective generatedAlias := by
  intro m n h
  have hnumber : (toString m).toList = (toString n).toList := by
    have hchars := congrArg String.toList h
    simpa [generatedAlias] using hchars
  exact Number.eq_of_toString_eq (String.toList_injective hnumber)

/-- A generated alias is the letter `a` with digits behind it. -/
theorem toList_generatedAlias (n : Nat) : (generatedAlias n).toList = 'a' :: Number.digits n := by
  rw [generatedAlias, String.toList_append, Number.toList_toString]
  rfl

/-- And it has no other characters. -/
theorem eq_or_isDigit_of_mem_generatedAlias {c : Char} (h : c ∈ (generatedAlias n).toList) :
    c = 'a' ∨ c.isDigit = true := by
  rw [toList_generatedAlias, List.mem_cons] at h
  exact h.imp_right Number.isDigit_of_mem_digits

/-- So none that could cut it, such as a blank or a parenthesis. -/
theorem notMem_generatedAlias {c : Char} (ha : c ≠ 'a') (hc : c.isDigit = false) :
    c ∉ (generatedAlias n).toList := by
  intro h
  rcases eq_or_isDigit_of_mem_generatedAlias h with rfl | hdigit
  · exact ha rfl
  · rw [hc] at hdigit
    cases hdigit

/-- A generated alias has no blanks around it. -/
theorem trim_generatedAlias (n : Nat) :
    trim (generatedAlias n).toList = (generatedAlias n).toList := by
  apply trim_of_forall_not_isBlank
  intro c hc
  rcases eq_or_isDigit_of_mem_generatedAlias hc with rfl | hdigit
  · decide
  · exact isBlank_of_isDigit hdigit

/-- The characters of an entry with a generated alias. -/
theorem toList_withAlias (entry : String) (n : Nat) : (withAlias entry n).toList
    = trim entry.toList ++ ' ' :: (generatedAlias n).toList := by
  simp [withAlias]

/-- Trimmed, an entry with an alias keeps the alias at its end. An entry of blanks is gone then, and
only the alias is left. -/
theorem trim_withAlias (entry : String) (n : Nat) :
    trim (withAlias entry n).toList = if trim entry.toList = [] then (generatedAlias n).toList
      else trim entry.toList ++ ' ' :: (generatedAlias n).toList := by
  rw [toList_withAlias]
  exact trim_append_blank (trim_trim _) (by simp [toList_generatedAlias]) (trim_generatedAlias n)

/-- Different numbers make different entries of one entry. -/
theorem withAlias_injective (entry : String) : Function.Injective (withAlias entry) := by
  intro m n heq
  have hchars := congrArg String.toList heq
  rw [toList_withAlias, toList_withAlias] at hchars
  have halias := (List.cons.inj (List.append_cancel_left hchars)).2
  exact generatedAlias_injective (String.toList_injective halias)

/-- An alias makes another entry of an entry. -/
theorem withAlias_ne_self (entry : String) (n : Nat) : withAlias entry n ≠ entry := by
  intro heq
  have htrim := trim_withAlias entry n
  rw [heq] at htrim
  split at htrim
  · rename_i hnil
    rw [hnil, toList_generatedAlias] at htrim
    cases htrim
  · have hlength := congrArg List.length htrim
    simp at hlength

/-- An alias brings no new character into an entry but blanks, `a` and digits. -/
theorem notMem_withAlias {c : Char} (hc : c ∉ entry.toList) (hblank : c ≠ ' ') (ha : c ≠ 'a')
    (hdigit : c.isDigit = false) (n : Nat) : c ∉ (withAlias entry n).toList := by
  rw [toList_withAlias, List.mem_append, List.mem_cons, not_or, not_or]
  exact ⟨fun h => hc ((isInfix_trim _).subset h), hblank, notMem_generatedAlias ha hdigit⟩

/-- The alias stands behind the last blank, or alone if there is nothing in front of it. -/
theorem splitAlias_withAlias (hopening : '(' ∉ entry.toList) (hclosing : ')' ∉ entry.toList)
    (n : Nat) : (splitAlias (withAlias entry n)).2 = some (generatedAlias n) ∨
      splitAlias (withAlias entry n) = (generatedAlias n, none) := by
  have hparens :
      ¬ ('(' ∈ trim (withAlias entry n).toList ∨ ')' ∈ trim (withAlias entry n).toList) := by
    rintro (h | h)
    · exact notMem_withAlias hopening (by decide) (by decide) (by decide) n
        ((isInfix_trim _).subset h)
    · exact notMem_withAlias hclosing (by decide) (by decide) (by decide) n
        ((isInfix_trim _).subset h)
  have hblank : ' ' ∉ (generatedAlias n).toList := notMem_generatedAlias (by decide) (by decide)
  unfold splitAlias
  dsimp only
  rw [if_neg hparens, trim_withAlias]
  -- A blank entry has nothing in front of its alias, so the alias is read as the expression.
  by_cases hnil : trim entry.toList = []
  · rw [if_pos hnil, splitAtLast?_eq_none_iff.mpr hblank]
    exact .inr (by simp)
  · rw [if_neg hnil, splitAtLast?_append_of_notMem hblank]
    exact .inl (by simp)

/-- An entry with a name of its own has no opening parenthesis, as it would be a call. -/
theorem opening_notMem_of_plainName? (hplain : plainName? entry = some name) :
    '(' ∉ entry.toList := by
  simpa [isFunction] using (plainName?_eq_some_iff.mp hplain).1

/-- And an alias makes no call of it. -/
theorem isFunction_withAlias (hplain : plainName? entry = some name) (n : Nat) :
    isFunction (withAlias entry n) = false := by
  have hopening := opening_notMem_of_plainName? hplain
  simpa [isFunction] using notMem_withAlias hopening (by decide) (by decide) (by decide) n

/-- A generated alias is read back. With nothing in front of it, it is a column of the same name. -/
theorem resultName?_withAlias (hplain : plainName? entry = some name)
    (hparens : ')' ∈ entry.toList → '(' ∈ entry.toList) (n : Nat) :
    resultName? (withAlias entry n) = some (generatedAlias n) := by
  -- A plain name has no parenthesis, so the alias is cut off at the last blank.
  have hopening := opening_notMem_of_plainName? hplain
  have hclosing : ')' ∉ entry.toList := fun h => hopening (hparens h)
  have hfunction := isFunction_withAlias hplain n
  rcases splitAlias_withAlias hopening hclosing n with hgiven | halone
  · rw [resultName?, existingAlias?, hfunction, if_neg Bool.false_ne_true, hgiven, Option.some_or]
  · refine resultName?_of_plainName? (plainName?_eq_some_iff.mpr ⟨hfunction, ?_, ?_, ?_⟩)
    · rw [halone]
    · -- A blank entry: the alias itself is read as a column, and the name is the same.
      have hdot : '.' ∉ (generatedAlias n).toList := notMem_generatedAlias (by decide) (by decide)
      rw [halone, columnName, splitAtLast?_eq_none_iff.mpr hdot]
    · intro hstar
      have hchars := congrArg String.toList hstar
      rw [toList_generatedAlias] at hchars
      cases hchars

/-- An entry with a generated alias has the name of the alias and no other. -/
theorem resultName?_withAlias_iff {own : String} (hplain : plainName? entry = some own)
    (hparens : ')' ∈ entry.toList → '(' ∈ entry.toList) (n : Nat) :
    resultName? (withAlias entry n) = some name ↔ generatedAlias n = name := by
  rw [resultName?_withAlias hplain hparens, Option.some.injEq]

/-- The alias stands at the end of the entry, trimmed or not. -/
theorem isSuffix_trim_withAlias (entry : String) (n : Nat) :
    (generatedAlias n).toList <:+ trim (withAlias entry n).toList := by
  rw [trim_withAlias]
  split
  · exact List.suffix_rfl
  · exact (List.suffix_cons _ _).trans (List.suffix_append _ _)

/-- Whatever is read off an entry with a generated alias ends with this alias, also where a
parenthesis keeps the alias from being told apart. -/
theorem isSuffix_of_resultName?_withAlias {own : String} (hplain : plainName? entry = some own)
    (h : resultName? (withAlias entry n) = some name) :
    (generatedAlias n).toList <:+ name.toList := by
  have hending := isSuffix_trim_withAlias entry n
  rw [resultName?, existingAlias?, isFunction_withAlias hplain, if_neg Bool.false_ne_true] at h
  cases hgiven : (splitAlias (withAlias entry n)).2 with
  | some given =>
    rw [hgiven, Option.some_or] at h
    obtain rfl := Option.some.inj h
    unfold splitAlias at hgiven
    dsimp only at hgiven
    split at hgiven
    · cases hgiven
    · -- The alias stands behind the last blank, and the generated one has no blank in it.
      split at hgiven
      · rename_i before after hsplit
        have hblank : ' ' ∉ (generatedAlias n).toList :=
          notMem_generatedAlias (by decide) (by decide)
        obtain rfl := Option.some.inj hgiven
        rw [String.toList_ofList]
        exact isSuffix_of_splitAtLast? hsplit hending hblank
      · cases hgiven
  | none =>
    -- The name stands behind the last dot, and the generated alias has no dot in it.
    rw [hgiven, Option.none_or] at h
    obtain ⟨-, -, rfl, -⟩ := plainName?_eq_some_iff.mp h
    rw [splitAlias_of_snd_eq_none hgiven, columnName, String.toList_ofList]
    split
    · rename_i before after hsplit
      have hdot : '.' ∉ (generatedAlias n).toList := notMem_generatedAlias (by decide) (by decide)
      rw [String.toList_ofList]
      exact isSuffix_of_splitAtLast? hsplit hending hdot
    · rw [String.toList_ofList]
      exact hending

end SqlSelect.Query
