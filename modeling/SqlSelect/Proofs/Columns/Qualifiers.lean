import Mathlib.Data.List.Induction
import Mathlib.Data.List.TakeWhile
import SqlSelect.Proofs.Building.Registration
import SqlSelect.Proofs.Columns.QuotedText
import SqlSelect.Proofs.Rendering.QuotedNames

/-!
# `SqlSelect.Proofs.Columns.Qualifiers`: the columns of the parts of an expression

The scan for qualified columns goes from left to right, takes as much as it can for each column, and
uses up the character in front of it. With a character that separates between them, two parts of an
expression take nothing from each other all the same: the tables of the whole are the tables of the
parts, each at its first place.

* `Column.qualifiers_start`, `Column.qualifiers_cons`: the steps of the scan.
* `Column.qualifiers_append`: the scan of two texts with a separator between them.
* `Column.qualifiers_of_notMem`, `Column.readQualified?_column`: a text without dots, and a column
  that stands alone.
* `Column.tableNames_separated`: the tables of an expression in parts.
-/

set_option autoImplicit false

namespace SqlSelect.Column

open Text

/-- Whether a character separates columns: it neither belongs to a column nor binds to one behind
it. -/
def separates (c : Char) : Bool :=
  !bindsBefore c && c != '*'

/-- The characters that separate, one by one: the signs that could bind to a name are not among
them. -/
theorem separates_iff {c : Char} :
    separates c = true ↔
      isIdentifierPart c = false ∧ c ≠ '.' ∧ c ≠ '\'' ∧ c ≠ '"' ∧ c ≠ '*' := by
  simp [separates, bindsBefore, and_assoc]

variable {c : Char} {cs rest after : List Char} {name : List Char} {names : List (List Char)}

/-! ### One column -/

/-- What is taken from the start of a text ends in front of a character that does not belong to
it. -/
theorem span_append {p : Char → Bool} (hc : p c = false) (cs behind : List Char) :
    (cs ++ c :: behind).takeWhile p = cs.takeWhile p ∧
      (cs ++ c :: behind).dropWhile p = cs.dropWhile p ++ c :: behind := by
  induction cs with
  | nil => simp [hc]
  | cons d cs ih =>
    by_cases hd : p d = true
    · simp [hd, ih]
    · simp [hd]

/-- A character that cannot be in an identifier ends one, and what stands behind it is left. -/
theorem readIdentifier?_append (hc : isIdentifierPart c = false) (cs behind : List Char) :
    readIdentifier? (cs ++ c :: behind)
      = (readIdentifier? cs).map fun (name, rest) => (name, rest ++ c :: behind) := by
  cases cs with
  | nil =>
    have hstart : isIdentifierStart c = false := by
      by_contra h
      rw [Bool.not_eq_false] at h
      rw [isIdentifierPart_of_isIdentifierStart h] at hc
      cases hc
    show readIdentifier? (c :: behind) = none
    rw [readIdentifier?, hstart, if_neg Bool.false_ne_true]
  | cons d cs =>
    -- The run of characters that the identifier takes ends before `c` in both texts.
    obtain ⟨htake, hdrop⟩ := span_append hc cs behind
    rw [List.cons_append, readIdentifier?, readIdentifier?, htake, hdrop]
    split <;> rfl

/-- A column that is no `*` is an identifier. -/
theorem afterColumn?_of_head? (h : cs.head? ≠ some '*') :
    afterColumn? cs = (readIdentifier? cs).map Prod.snd := by
  rw [afterColumn?]
  intro rest hcs
  exact h (by rw [hcs, List.head?_cons])

/-- A column ends in the same place with a separator and anything else behind it. -/
theorem afterColumn?_append (hc : isIdentifierPart c = false) (hstar : c ≠ '*')
    (cs behind : List Char) :
    afterColumn? (cs ++ c :: behind) = (afterColumn? cs).map fun rest => rest ++ c :: behind := by
  by_cases hcs : cs.head? = some '*'
  · obtain ⟨rest, rfl⟩ := List.head?_eq_some_iff.mp hcs
    rfl
  · have hboth : (cs ++ c :: behind).head? ≠ some '*' := by
      cases cs with
      | nil => simpa using hstar
      | cons d cs => exact hcs
    rw [afterColumn?_of_head? hboth, afterColumn?_of_head? hcs, readIdentifier?_append hc,
      Option.map_map, Option.map_map]
    rfl

/-- Where a dot follows an identifier, there are more identifiers behind the dot, or else the
column. -/
theorem readQualified?_dot (h : readIdentifier? cs = some (name, '.' :: rest)) :
    readQualified? cs = match readQualified? rest with
      | some (names, after) => some (name :: names, after)
      | none => (afterColumn? rest).map fun after => ([name], after) := by
  rw [readQualified?]
  split
  · rename_i hread
    rw [h] at hread
    cases hread
    rfl
  · rename_i hnone
    exact absurd h (hnone name rest)

/-- Without a dot behind an identifier there is no qualified column. -/
theorem readQualified?_eq_none (h : ∀ name rest, readIdentifier? cs ≠ some (name, '.' :: rest)) :
    readQualified? cs = none := by
  rw [readQualified?]
  split
  · rename_i hread
    exact absurd hread (h _ _)
  · rfl

/-- A separator behind a text does not change the column at its start, nor is it used up. -/
theorem readQualified?_append (hc : separates c = true) (cs behind : List Char) :
    readQualified? (cs ++ c :: behind)
      = (readQualified? cs).map fun (names, after) => (names, after ++ c :: behind) := by
  obtain ⟨hpart, hdot, -, -, hstar⟩ := separates_iff.mp hc
  have hfirst : ∀ {cs name rest}, readIdentifier? cs = some (name, '.' :: rest) →
      readIdentifier? (cs ++ c :: behind) = some (name, '.' :: (rest ++ c :: behind)) := by
    intro cs name rest hread
    rw [readIdentifier?_append hpart, hread]
    rfl
  fun_induction readQualified? cs with
  | case1 cs name rest hread names after hrest ih =>
    rw [readQualified?_dot (hfirst hread), ih, hrest]
    rfl
  | case2 cs name rest hread hrest ih =>
    rw [readQualified?_dot (hfirst hread), ih, hrest]
    show ((afterColumn? (rest ++ c :: behind)).map fun after => ([name], after)) = _
    rw [afterColumn?_append hpart hstar, Option.map_map, Option.map_map]
    rfl
  | case3 cs hnone =>
    apply readQualified?_eq_none
    intro name rest hread
    rw [readIdentifier?_append hpart, Option.map_eq_some_iff] at hread
    obtain ⟨⟨name', rest'⟩, hread', heq⟩ := hread
    cases rest' with
    | nil =>
      -- The identifier goes up to the separator, which is no dot.
      simp only [List.nil_append, Prod.mk.injEq, List.cons.injEq] at heq
      exact hdot heq.2.1
    | cons d rest' =>
      simp only [List.cons_append, Prod.mk.injEq, List.cons.injEq] at heq
      obtain ⟨rfl, rfl, -⟩ := heq
      exact hnone _ _ hread'

/-! ### The scan -/

/-- At the start of a text there can be a column. -/
theorem qualifiers_start (h : readQualified? cs = some (names, after)) :
    qualifiers true cs = ['.'].intercalate names :: qualifiers false after := by
  rw [qualifiers]
  split
  · rename_i hread
    rw [if_pos rfl, h] at hread
    cases hread
    rfl
  · rename_i hread
    rw [if_pos rfl, h] at hread
    cases hread

/-- There is nothing to find in an empty text. -/
theorem qualifiers_nil (atStart : Bool) : qualifiers atStart [] = [] := by
  have hnone : (if atStart then readQualified? [] else none) = none := by
    cases atStart <;> simp [readQualified?, readIdentifier?]
  rw [qualifiers]
  split
  · rename_i hread
    rw [hnone] at hread
    cases hread
  · rfl

/-- Where no column is at the start of a text, its first character is passed over. -/
theorem qualifiers_step {atStart : Bool}
    (h : (if atStart then readQualified? (c :: cs) else none) = none) :
    qualifiers atStart (c :: cs) = match if bindsBefore c then none else readQualified? cs with
      | some (names, after) => ['.'].intercalate names :: qualifiers false after
      | none => qualifiers false cs := by
  -- The scan tries the start of the text first, and `h` says that it finds nothing there.
  rw [qualifiers]
  split
  · rename_i hread
    rw [h] at hread
    cases hread
  · dsimp only
    split
    · rename_i hread
      rw [hread]
    · rename_i hread
      rw [hread]

/-- The start of a text matters only where a qualified column stands there. -/
theorem qualifiers_start_of_none (h : readQualified? cs = none) :
    qualifiers true cs = qualifiers false cs := by
  cases cs with
  | nil => rw [qualifiers_nil, qualifiers_nil]
  | cons c cs => rw [qualifiers_step (by simpa using h), qualifiers_step (by simp)]

/-- Behind a character there can be a column, unless the character binds to it. -/
theorem qualifiers_cons {atStart : Bool}
    (h : (if atStart then readQualified? (c :: cs) else none) = none) :
    qualifiers atStart (c :: cs) = qualifiers (!bindsBefore c) cs := by
  rw [qualifiers_step h]
  cases bindsBefore c with
  | true => rfl
  | false =>
    rw [if_neg Bool.false_ne_true]
    cases hread : readQualified? cs with
    | some column => exact (qualifiers_start hread).symm
    | none => exact (qualifiers_start_of_none hread).symm

/-- The scan of a text is over at a separator behind it, and what follows is scanned as if it stood
alone. The induction is on the length, since a column uses up many characters at once. -/
theorem qualifiers_append (hc : separates c = true) (atStart : Bool) (cs behind : List Char) :
    qualifiers atStart (cs ++ c :: behind) = qualifiers atStart cs ++ qualifiers true behind := by
  have hbinds : bindsBefore c = false := by
    rw [separates, Bool.and_eq_true, Bool.not_eq_true'] at hc
    exact hc.1
  induction hlength : cs.length using Nat.strongRecOn generalizing atStart cs with
  | ind n ih =>
    cases hread : if atStart then readQualified? cs else none with
    | some column =>
      obtain ⟨names, after⟩ := column
      cases atStart with
      | false => cases hread
      | true =>
        have hcolumn : readQualified? cs = some (names, after) := hread
        have hlt : after.length < n := hlength ▸ length_lt_of_readQualified? hcolumn
        have hboth : readQualified? (cs ++ c :: behind) = some (names, after ++ c :: behind) := by
          rw [readQualified?_append hc, hcolumn]
          rfl
        rw [qualifiers_start hcolumn, qualifiers_start hboth, ih _ hlt false after rfl,
          List.cons_append]
    | none =>
      have hboth : (if atStart then readQualified? (cs ++ c :: behind) else none) = none := by
        cases atStart with
        | false => rfl
        | true =>
          have hcolumn : readQualified? cs = none := hread
          show readQualified? (cs ++ c :: behind) = none
          rw [readQualified?_append hc, hcolumn]
          rfl
      cases cs with
      | nil =>
        -- The separator is passed over, and it does not bind to what is behind it.
        rw [List.nil_append] at hboth
        rw [List.nil_append, qualifiers_cons hboth, qualifiers_nil, hbinds]
        rfl
      | cons d rest =>
        have hlt : rest.length < n := by
          rw [← hlength, List.length_cons]
          omega
        rw [List.cons_append] at hboth
        rw [List.cons_append, qualifiers_cons hboth, qualifiers_cons hread]
        exact ih _ hlt _ rest rfl

/-- Reading an identifier cuts the text in two. -/
theorem eq_append_of_readIdentifier? (h : readIdentifier? cs = some (name, rest)) :
    cs = name ++ rest := by
  cases cs with
  | nil => cases h
  | cons c cs =>
    rw [readIdentifier?] at h
    split at h
    · cases h
      rw [List.cons_append, List.takeWhile_append_dropWhile]
    · cases h

/-- A text without dots has no qualified column at its start. -/
theorem readQualified?_of_notMem (h : '.' ∉ cs) : readQualified? cs = none := by
  apply readQualified?_eq_none
  intro name rest hread
  apply h
  rw [eq_append_of_readIdentifier? hread]
  exact List.mem_append_right name List.mem_cons_self

/-- Without a dot there is no qualified column. -/
theorem qualifiers_of_notMem (h : '.' ∉ cs) (atStart : Bool) : qualifiers atStart cs = [] := by
  induction cs generalizing atStart with
  | nil => exact qualifiers_nil atStart
  | cons c cs ih =>
    have hnone : (if atStart then readQualified? (c :: cs) else none) = none := by
      rw [readQualified?_of_notMem h, ite_self]
    rw [qualifiers_cons hnone]
    exact ih (fun hrest => h (List.mem_cons_of_mem c hrest)) _

/-- A qualified column that stands alone is read as a whole: all its names but the last are its
qualifier. -/
theorem readQualified?_column {names : List String} {column : String} (hne : names ≠ [])
    (hnames : ∀ name ∈ names, IsIdentifier name) (hcolumn : IsColumn column) :
    readQualified? (['.'].intercalate (names.map String.toList) ++ '.' :: column.toList)
      = some (names.map String.toList, []) := by
  induction names with
  | nil => exact absurd rfl hne
  | cons name names ih =>
    have hname : IsIdentifier name := hnames name List.mem_cons_self
    cases names with
    | nil =>
      have hread := readIdentifier?_append_dot hname column.toList
      rw [List.map_singleton, List.intercalate_singleton, readQualified?_dot hread]
      -- There is no dot in the last name, so it is the column.
      rcases hcolumn with hcolumn | rfl
      · have hlast : readQualified? column.toList = none := by
          apply readQualified?_eq_none
          intro name' rest hread'
          rw [hcolumn] at hread'
          cases hread'
        have hhead : column.toList.head? ≠ some '*' := by
          obtain ⟨c, cs, hchars, hstart, -⟩ := hcolumn.exists_chars
          rw [hchars, List.head?_cons]
          rintro ⟨⟩
          exact absurd hstart (by decide)
        rw [hlast, afterColumn?_of_head? hhead, hcolumn]
        rfl
      · have hlast : readQualified? "*".toList = none := by
          apply readQualified?_eq_none
          intro name' rest hread'
          cases hread'
        rw [hlast]
        rfl
    | cons next names =>
      have hrest := ih (List.cons_ne_nil _ _) fun n hn => hnames n (List.mem_cons_of_mem _ hn)
      rw [List.map_cons, List.map_cons, List.intercalate_cons_cons, List.append_assoc,
        List.append_assoc, List.singleton_append,
        readQualified?_dot (readIdentifier?_append_dot hname _)]
      rw [List.map_cons] at hrest
      rw [hrest]

/-! ### Tables, each once -/

/-- Each item at its first place is what `List.eraseDups` keeps. -/
theorem distinct_eq (xs : List String) : distinct xs = xs.eraseDups := by
  have hfold : ∀ l : UniqueList String,
      xs.foldl (fun seen x => if x ∈ seen then seen else seen ++ [x]) l.toList
        = (l.insertAll xs).toList := by
    induction xs with
    | nil =>
      intro l
      rfl
    | cons x xs ih =>
      intro l
      rw [List.foldl_cons, ← UniqueList.toList_insert, ih]
      rfl
  rw [← UniqueList.toList_ofList]
  exact hfold .empty

/-- One more item stands at the end unless it was there before. -/
theorem eraseDups_append_singleton (xs : List String) (x : String) :
    (xs ++ [x]).eraseDups = xs.eraseDups ++ if x ∈ xs then [] else [x] := by
  rw [List.eraseDups_append, List.removeAll]
  by_cases hx : x ∈ xs <;> simp [hx, List.eraseDups_cons]

/-- Which of the items are left out does not depend on how often they are there. -/
theorem eraseDups_filter (p : String → Bool) (xs : List String) :
    (xs.filter p).eraseDups = xs.eraseDups.filter p := by
  induction xs using List.reverseRecOn with
  | nil => rfl
  | append_singleton xs x ih =>
    rw [List.filter_append, eraseDups_append_singleton, List.filter_append, ← ih]
    by_cases hp : p x = true
    · rw [List.filter_cons_of_pos hp, List.filter_nil, eraseDups_append_singleton]
      by_cases hx : x ∈ xs <;> simp [hx, hp]
    · by_cases hx : x ∈ xs <;> simp [hx, hp]

/-- Behind the items of one list, those of another stay that are not among them. -/
theorem eraseDups_append (xs ys : List String) :
    (xs ++ ys).eraseDups = xs.eraseDups ++ ys.eraseDups.filter (· ∉ xs.eraseDups) := by
  rw [List.eraseDups_append, List.removeAll, eraseDups_filter]
  congr 1
  refine List.filter_congr fun y _ => ?_
  simp

/-- A list without repetitions is left as it is. -/
theorem eraseDups_of_nodup {xs : List String} (h : xs.Nodup) : xs.eraseDups = xs := by
  induction xs with
  | nil => rfl
  | cons x xs ih =>
    obtain ⟨hx, hxs⟩ := List.nodup_cons.mp h
    have hothers : (xs.filter fun y => !y == x) = xs := by
      rw [List.filter_eq_self]
      intro y hy
      have hne : y ≠ x := fun heq => hx (heq ▸ hy)
      simpa using hne
    rw [List.eraseDups_cons, hothers, ih hxs]

/-- Taking repetitions out twice is taking them out once. -/
theorem eraseDups_eraseDups (xs : List String) : xs.eraseDups.eraseDups = xs.eraseDups := by
  apply eraseDups_of_nodup
  rw [← UniqueList.toList_ofList]
  exact UniqueList.nodup _

/-- The tables that an expression refers to, none if it is malformed, are those that the scan
finds. -/
theorem tablesOf_eq_eraseDups (expression : String) :
    tablesOf expression
      = ((qualifiers true (withoutQuoted expression.toList)).map String.ofList).eraseDups := by
  rw [← distinct_eq, tablesOf, tableNames]
  split
  · rename_i hnone
    rw [Bool.and_eq_true, List.isEmpty_iff] at hnone
    rw [hnone.1]
    rfl
  · rfl

/-- An expression in which a table is found is accepted. -/
theorem tableNames_of_tablesOf_ne_nil {expression : String} (h : tablesOf expression ≠ []) :
    tableNames expression = .ok (tablesOf expression) := by
  cases htables : tableNames expression with
  | ok tables => rw [tablesOf_eq htables]
  | error e => exact absurd (tablesOf_of_error htables) h

/-! ### Expressions in parts -/

/-- Two parts with a separator between them have the tables of the first one and then the new ones
of the second. The first part leaves no quoted text open, and so takes nothing of the second. -/
theorem tablesOf_append {x : String} {separator : Char} (hx : x.toList.count '\'' % 2 = 0)
    (hseparator : separates separator = true) (y : String) :
    tablesOf (x ++ String.singleton separator ++ y)
      = tablesOf x ++ (tablesOf y).filter (· ∉ tablesOf x) := by
  have hquote : separator ≠ '\'' := (separates_iff.mp hseparator).2.2.1
  have hchars : (x ++ String.singleton separator ++ y).toList
      = x.toList ++ separator :: y.toList := by simp
  rw [tablesOf_eq_eraseDups, hchars, withoutQuoted_append hx (by simpa using hquote),
    withoutQuoted_of_ne hquote, qualifiers_append hseparator, List.map_append, eraseDups_append,
    tablesOf_eq_eraseDups, tablesOf_eq_eraseDups]

/-- Texts, each with a character behind it, and a last one. -/
def separated (parts : List (String × Char)) (last : String) : String :=
  parts.foldr (fun (part, separator) rest => part ++ String.singleton separator ++ rest) last

/-- Many parts have the tables of each, each at its first place. -/
theorem tablesOf_separated {parts : List (String × Char)} (last : String)
    (h : ∀ p ∈ parts, p.1.toList.count '\'' % 2 = 0 ∧ separates p.2 = true) :
    tablesOf (separated parts last)
      = (parts.flatMap (fun p => tablesOf p.1) ++ tablesOf last).eraseDups := by
  induction parts with
  | nil =>
    show tablesOf last = (tablesOf last).eraseDups
    rw [tablesOf_eq_eraseDups, eraseDups_eraseDups]
  | cons p parts ih =>
    obtain ⟨part, separator⟩ := p
    obtain ⟨hpart, hseparator⟩ := h _ List.mem_cons_self
    have hrest := ih fun q hq => h q (List.mem_cons_of_mem _ hq)
    have honce : (tablesOf part).eraseDups = tablesOf part := by
      rw [tablesOf_eq_eraseDups, eraseDups_eraseDups]
    show tablesOf (part ++ String.singleton separator ++ separated parts last) = _
    -- A table of the rest that the first part has is taken out by the append law, and by
    -- `eraseDups` on the other side.
    rw [tablesOf_append hpart hseparator, hrest, List.flatMap_cons, List.append_assoc,
      eraseDups_append (tablesOf part), honce]

/-- A text without quotes is scanned as it is. -/
theorem withoutQuoted_of_notMem {cs : List Char} (h : '\'' ∉ cs) : withoutQuoted cs = cs := by
  induction cs with
  | nil => simp [withoutQuoted]
  | cons c cs ih =>
    rw [List.mem_cons, not_or] at h
    rw [withoutQuoted_of_ne (Ne.symm h.1), ih h.2]

/-- A character that is in no part and is not the separator is not in the joined text. -/
theorem notMem_intercalate {sep : Char} {parts : List (List Char)} (hsep : c ≠ sep)
    (h : ∀ part ∈ parts, c ∉ part) : c ∉ [sep].intercalate parts := by
  induction parts with
  | nil => simp
  | cons part parts ih =>
    have hpart : c ∉ part := h part List.mem_cons_self
    cases parts with
    | nil => rwa [List.intercalate_singleton]
    | cons next parts =>
      have hrest := ih fun q hq => h q (List.mem_cons_of_mem _ hq)
      rw [List.intercalate_cons_cons]
      simp [hpart, hsep, hrest]

/-- A column has only identifiers, dots and `*` in it. -/
theorem notMem_of_isColumn {column : String} (h : IsColumn column)
    (hpart : isIdentifierPart c = false) (hstar : c ≠ '*') : c ∉ column.toList := by
  rcases h with h | rfl
  · exact h.notMem hpart
  · simpa using hstar

/-- A qualified column refers to one table, which its qualifier names. -/
theorem tablesOf_column {names : List String} {column : String} (hne : names ≠ [])
    (hnames : ∀ name ∈ names, IsIdentifier name) (hcolumn : IsColumn column) :
    tablesOf (String.intercalate "." names ++ "." ++ column) = [String.intercalate "." names] := by
  have hchars : (String.intercalate "." names ++ "." ++ column).toList
      = ['.'].intercalate (names.map String.toList) ++ '.' :: column.toList := by
    simp [String.toList_intercalate]
  -- There is no quoted text in a column, so it is scanned as it is.
  have hquote : '\'' ∉ ['.'].intercalate (names.map String.toList) ++ '.' :: column.toList := by
    have hqualifier : '\'' ∉ ['.'].intercalate (names.map String.toList) := by
      apply notMem_intercalate (by decide)
      intro part hpart
      obtain ⟨name, hname, rfl⟩ := List.mem_map.mp hpart
      exact (hnames name hname).notMem (by decide)
    simp [hqualifier, notMem_of_isColumn hcolumn (c := '\'') (by decide) (by decide)]
  have hqualifier : String.ofList (['.'].intercalate (names.map String.toList))
      = String.intercalate "." names := by
    rw [← String.toList_inj, String.toList_ofList, String.toList_intercalate]
    rfl
  rw [tablesOf_eq_eraseDups, hchars, withoutQuoted_of_notMem hquote,
    qualifiers_start (readQualified?_column hne hnames hcolumn), qualifiers_nil, List.map_singleton,
    hqualifier, List.eraseDups_cons, List.filter_nil, List.eraseDups_nil]

/-- The tables of an expression are those of its parts, in order and each at its first place, when
separators stand between the parts and no quoted text goes over one of them. A part that is a
qualified column gives the table its qualifier names. -/
theorem tableNames_separated :
    (∀ (x y : String) (separator : Char), x.toList.count '\'' % 2 = 0 →
      separates separator = true →
      tablesOf (x ++ String.singleton separator ++ y)
          = tablesOf x ++ (tablesOf y).filter (· ∉ tablesOf x) ∧
        (tablesOf x ≠ [] ∨ tablesOf y ≠ [] →
          tableNames (x ++ String.singleton separator ++ y)
            = .ok (tablesOf x ++ (tablesOf y).filter (· ∉ tablesOf x)))) ∧
      (∀ (parts : List (String × Char)) (last : String),
        (∀ p ∈ parts, p.1.toList.count '\'' % 2 = 0 ∧ separates p.2 = true) →
        tablesOf (separated parts last)
          = (parts.flatMap (fun p => tablesOf p.1) ++ tablesOf last).eraseDups) ∧
      ∀ (names : List String) (column : String), names ≠ [] →
        (∀ name ∈ names, IsIdentifier name) → IsColumn column →
        tableNames (String.intercalate "." names ++ "." ++ column)
          = .ok [String.intercalate "." names] := by
  refine ⟨?_, ?_, ?_⟩
  · intro x y separator hx hseparator
    have happend := tablesOf_append hx hseparator y
    refine ⟨happend, ?_⟩
    intro hsome
    rw [← happend]
    apply tableNames_of_tablesOf_ne_nil
    rw [happend]
    intro hnil
    rw [List.append_eq_nil_iff] at hnil
    obtain ⟨hxnil, hynil⟩ := hnil
    rcases hsome with hxne | hyne
    · exact hxne hxnil
    · -- Without tables in front, none of those behind is left out.
      rw [hxnil] at hynil
      exact hyne (by simpa using hynil)
  · intro parts last h
    exact tablesOf_separated last h
  · intro names column hne hnames hcolumn
    have htables := tablesOf_column hne hnames hcolumn
    rw [← htables]
    apply tableNames_of_tablesOf_ne_nil
    rw [htables]
    exact List.cons_ne_nil _ _

/-- Columns in the arguments of a function. The comma between the first two is next to both, and the
table of the third is there already. -/
theorem tableNames_separated_arguments :
    "COALESCE(a.x".toList.count '\'' % 2 = 0 ∧ separates ',' = true ∧
      tablesOf "COALESCE(a.x" = ["a"] ∧ tablesOf "s.b.y - a.z)" = ["s.b", "a"] ∧
      tableNames "COALESCE(a.x,s.b.y - a.z)" = .ok ["a", "s.b"] := by
  have heven : "COALESCE(a.x".toList.count '\'' % 2 = 0 := by decide
  have hcomma : separates ',' = true := by decide
  have hfirst : tablesOf "COALESCE(a.x" = ["a"] := by decide +kernel
  have hsecond : tablesOf "s.b.y - a.z)" = ["s.b", "a"] := by decide +kernel
  refine ⟨heven, hcomma, hfirst, hsecond, ?_⟩
  have hall := (tableNames_separated.1 _ "s.b.y - a.z)" _ heven hcomma).2 (by simp [hfirst])
  rw [hfirst, hsecond] at hall
  exact hall

end SqlSelect.Column
