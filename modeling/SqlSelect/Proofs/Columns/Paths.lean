import SqlSelect.Column.Alias
import SqlSelect.Proofs.Columns.Arithmetic
import SqlSelect.Proofs.Columns.Matching

/-!
# `SqlSelect.Proofs.Columns.Paths`: paths of identifiers

A path is a list of identifiers with dots between them, perhaps with `.*` behind the last one. The
recognizer of paths, the scan for qualified columns and the cut at the last dot are three readings of
one text. They agree: what stands in front of the last dot of a path is its table, and what stands
behind it is its column.

* `Column.isIdentifierPath_iff`: the texts that are paths.
* `Column.isIdentifier_or_exists_column`: a path without dots, and one with a qualifier.
* `Column.isPath_eq`: the recognizer of paths as a regular expression.
* `Column.path_readings_agree`: the table and the column of a path.
-/

set_option autoImplicit false

namespace SqlSelect

open Text

namespace Column

variable {cs rest : List Char} {name : List Char}

/-! ### The texts that are paths -/

/-- Identifiers with dots between them are a path, with `.*` behind them or not. -/
theorem isPath_intercalate {names : List String} (hne : names ≠ [])
    (hnames : ∀ name ∈ names, IsIdentifier name) (ending : List Char)
    (hending : ending = [] ∨ ending = ['.', '*']) :
    isPath (['.'].intercalate (names.map String.toList) ++ ending) = true := by
  induction names with
  | nil => exact absurd rfl hne
  | cons name names ih =>
    have hname : IsIdentifier name := hnames name List.mem_cons_self
    cases names with
    | nil =>
      rw [List.map_singleton, List.intercalate_singleton]
      rcases hending with rfl | rfl
      · rw [List.append_nil]
        exact isPath_of_readIdentifier? hname
      · rw [isPath_of_readIdentifier?_dot (readIdentifier?_append_dot hname _)]
        rfl
    | cons next names =>
      have hrest := ih (List.cons_ne_nil _ _) fun n hn => hnames n (List.mem_cons_of_mem _ hn)
      rw [List.map_cons] at hrest
      rw [List.map_cons, List.map_cons, List.intercalate_cons_cons, List.append_assoc,
        List.append_assoc, List.singleton_append,
        isPath_of_readIdentifier?_dot (readIdentifier?_append_dot hname _), hrest, Bool.or_true]

/-- And every path is of this form, so its identifiers can be named. -/
theorem exists_names_of_isPath (h : isPath cs = true) :
    ∃ names : List String, names ≠ [] ∧ (∀ name ∈ names, IsIdentifier name) ∧
      ∃ ending, (ending = [] ∨ ending = ['.', '*']) ∧
        cs = ['.'].intercalate (names.map String.toList) ++ ending := by
  fun_induction isPath cs with
  | case1 cs name hread =>
    refine ⟨[String.ofList name], by simp, ?_, [], .inl rfl, ?_⟩
    · simpa using isIdentifier_of_readIdentifier? hread
    · simpa using eq_append_of_readIdentifier? hread
  | case2 cs name rest hread ih =>
    have hname := isIdentifier_of_readIdentifier? hread
    have hcs := eq_append_of_readIdentifier? hread
    rcases Bool.or_eq_true_iff.mp h with hstar | hpath
    · -- A star behind the first dot ends the path.
      rw [beq_iff_eq] at hstar
      exact ⟨[String.ofList name], by simp, by simpa using hname, ['.', '*'], .inr rfl,
        by simp [hcs, hstar]⟩
    · obtain ⟨names, hne, hnames, ending, hending, hrest⟩ := ih hpath
      obtain ⟨first, others, rfl⟩ := List.exists_cons_of_ne_nil hne
      refine ⟨String.ofList name :: first :: others, by simp, ?_, ending, hending, ?_⟩
      · exact List.forall_mem_cons.mpr ⟨hname, hnames⟩
      · rw [hcs, hrest]
        simp [List.intercalate_cons_cons]
  | case3 => cases h

/-- The paths are the lists of identifiers with dots between them, perhaps with `.*` behind. -/
theorem isIdentifierPath_iff (expression : String) :
    isIdentifierPath expression = true ↔
      ∃ names : List String, names ≠ [] ∧ (∀ name ∈ names, IsIdentifier name) ∧
        ∃ ending, (ending = "" ∨ ending = ".*") ∧
          expression = String.intercalate "." names ++ ending := by
  constructor
  · intro h
    obtain ⟨names, hne, hnames, ending, hending, hcs⟩ := exists_names_of_isPath h
    refine ⟨names, hne, hnames, String.ofList ending, ?_, ?_⟩
    · rcases hending with rfl | rfl
      · exact .inl rfl
      · exact .inr rfl
    · rw [← String.toList_inj, hcs]
      simp [String.toList_intercalate]
  · rintro ⟨names, hne, hnames, ending, hending, rfl⟩
    have hpath := isPath_intercalate hne hnames ending.toList (by
      rcases hending with rfl | rfl
      · exact .inl rfl
      · exact .inr rfl)
    rw [isIdentifierPath, String.toList_append, String.toList_intercalate]
    exact hpath

/-! ### Qualifier and column -/

/-- A path is a bare identifier, or a column behind the identifiers that qualify it. -/
theorem isIdentifier_or_exists_column {expression : String}
    (h : isIdentifierPath expression = true) :
    IsIdentifier expression ∨ ∃ (names : List String) (column : String), names ≠ [] ∧
      (∀ name ∈ names, IsIdentifier name) ∧ IsColumn column ∧
        expression = String.intercalate "." names ++ "." ++ column := by
  obtain ⟨names, hne, hnames, ending, hending, rfl⟩ := (isIdentifierPath_iff expression).mp h
  rcases hending with rfl | rfl
  · obtain ⟨qualifier, last, rfl⟩ := List.eq_nil_or_concat' names |>.resolve_left hne
    have hlast : IsIdentifier last := hnames last (by simp)
    -- Without `.*` the last name is the column, and what is in front of it may be empty.
    by_cases hqualifier : qualifier = []
    · subst hqualifier
      left
      simpa using hlast
    · right
      refine ⟨qualifier, last, hqualifier, fun n hn => hnames n (by simp [hn]), .inl hlast, ?_⟩
      rw [String.append_empty,
        String.intercalate_append_of_ne_nil hqualifier (List.cons_ne_nil last []),
        String.intercalate_singleton]
  · right
    exact ⟨names, "*", hne, hnames, .inr rfl, by simp [String.append_assoc]⟩

/-- The name behind the last dot. -/
theorem columnName_append_dot (qualifier : String) {column : String} (h : '.' ∉ column.toList) :
    columnName (qualifier ++ "." ++ column) = column := by
  have hchars : (qualifier ++ "." ++ column).toList
      = qualifier.toList ++ '.' :: column.toList := by simp
  rw [columnName, hchars, splitAtLast?_append_of_notMem h]
  exact String.ofList_toList

/-- A qualified column has one table, which its qualifier names. -/
theorem tableNames_column {names : List String} {column : String} (hne : names ≠ [])
    (hnames : ∀ name ∈ names, IsIdentifier name) (hcolumn : IsColumn column) :
    tableNames (String.intercalate "." names ++ "." ++ column)
      = .ok [String.intercalate "." names] := by
  have htables := tablesOf_column hne hnames hcolumn
  rw [← htables]
  apply tableNames_of_tablesOf_ne_nil
  rw [htables]
  exact List.cons_ne_nil _ _

/-- A bare identifier is an arithmetic expression without a multiplication, and so it is
malformed. -/
theorem tableNames_identifier {name : String} (h : IsIdentifier name) :
    tableNames name = .error (.malformedColumn name) := by
  have hbare := (Arithmetic.column ⟨name, h⟩).tableNames_text
  rwa [Arithmetic.text, Arithmetic.chars, String.ofList_toList] at hbare

/-! ### The regular expression of a path -/

/-- A dot and an identifier behind it. -/
def furtherRegex : Regex :=
  .seq (.char (· == '.')) identifierRegex

/-- The end of the text, perhaps behind `.*`. -/
def pathEndRegex : Regex :=
  .alt (.seq (.char (· == '.')) (.seq (.char (· == '*')) .finish)) .finish

/-- What follows the first identifier of a path. -/
def pathTailRegex : Regex :=
  .seq (.star furtherRegex) pathEndRegex

/-- A path from its first identifier on. -/
def pathBodyRegex : Regex :=
  .seq identifierRegex pathTailRegex

/-- A text that is a path. -/
def pathRegex : Regex :=
  .seq .start pathBodyRegex

open Regex

/-- Behind a dot a path goes on with an identifier. -/
theorem ends_further_dot (atStart : Bool) (cs : List Char) :
    furtherRegex.ends ⟨atStart, '.' :: cs⟩ = identifierRegex.ends ⟨false, cs⟩ := by
  show [(⟨false, cs⟩ : Position)].flatMap identifierRegex.ends = _
  rw [List.flatMap_singleton]

/-- Behind its identifiers a path ends, with or without `.*`. -/
theorem ends_pathEnd_ne_nil_iff (atStart : Bool) (cs : List Char) :
    pathEndRegex.ends ⟨atStart, cs⟩ ≠ [] ↔ cs = [] ∨ cs = ['.', '*'] := by
  constructor
  · intro h
    obtain ⟨q, hq⟩ := List.exists_mem_of_ne_nil _ h
    rcases List.mem_append.mp hq with hstar | hend
    · right
      obtain ⟨m, hm, hq⟩ := List.mem_flatMap.mp hstar
      obtain ⟨n, hn, hq⟩ := List.mem_flatMap.mp hq
      obtain ⟨c, hm, hc⟩ := exists_of_mem_ends_char hm
      obtain ⟨d, hn, hd⟩ := exists_of_mem_ends_char hn
      rw [beq_iff_eq] at hc hd
      rw [hn, (eq_of_mem_ends_finish hq).2, hc, hd] at hm
      exact hm
    · exact .inl (eq_of_mem_ends_finish hend).2
  · rintro (rfl | rfl)
    · simp [pathEndRegex, ends]
    · simp [pathEndRegex, ends]

/-- A path goes on with an identifier before it ends. -/
theorem ends_pathTail (p : Position) :
    pathTailRegex.ends p
      = (furtherRegex.ends p).flatMap pathTailRegex.ends ++ pathEndRegex.ends p := by
  -- Every round takes a dot at least.
  have hlength : ∀ q ∈ furtherRegex.ends p, q.rest.length < p.rest.length := by
    intro q hq
    obtain ⟨m, hm, hq⟩ := List.mem_flatMap.mp hq
    obtain ⟨c, hrest, -⟩ := exists_of_mem_ends_char hm
    have hle := length_le_of_mem_ends hq
    rw [hrest, List.length_cons]
    omega
  show (furtherRegex.star.ends p).flatMap pathEndRegex.ends = _
  rw [ends_star hlength, List.flatMap_append, List.flatMap_singleton, List.flatMap_assoc]
  rfl

/-- In front of another character than a dot no path ends or goes on. -/
theorem ends_pathTail_of_ne {c : Char} (hc : c ≠ '.') (atStart : Bool) (cs : List Char) :
    pathTailRegex.ends ⟨atStart, c :: cs⟩ = [] := by
  have hdot : (Regex.char (· == '.')).ends ⟨atStart, c :: cs⟩ = [] :=
    ends_char_of_eq_false (beq_eq_false_iff_ne.mpr hc) atStart cs
  have hfurther : furtherRegex.ends ⟨atStart, c :: cs⟩ = [] := by
    show ((Regex.char (· == '.')).ends ⟨atStart, c :: cs⟩).flatMap _ = []
    rw [hdot, List.flatMap_nil]
  have hend : pathEndRegex.ends ⟨atStart, c :: cs⟩ = [] := by
    show ((Regex.char (· == '.')).ends ⟨atStart, c :: cs⟩).flatMap _ ++ [] = []
    rw [hdot, List.flatMap_nil, List.append_nil]
  rw [ends_pathTail, hfurther, hend, List.flatMap_nil, List.append_nil]

/-- A shorter identifier is no use: a part of the identifier comes next, and neither a dot nor the
end. -/
theorem ends_pathBody (p : Position) :
    pathBodyRegex.ends p = match readIdentifier? p.rest with
      | some (_, rest) => pathTailRegex.ends ⟨false, rest⟩
      | none => [] := by
  have hends := ends_identifier p
  show (identifierRegex.ends p).flatMap pathTailRegex.ends = _
  cases hread : readIdentifier? p.rest with
  | none =>
    rw [hread] at hends
    rw [hends]
    rfl
  | some read =>
    obtain ⟨name, rest⟩ := read
    rw [hread] at hends
    obtain ⟨others, hends, hothers⟩ := hends
    -- A shorter match of the identifier leaves a part of it behind, where no dot and no end
    -- follows.
    have hnone : others.flatMap pathTailRegex.ends = [] := by
      rw [List.flatMap_eq_nil_iff]
      rintro ⟨inside, text⟩ hq
      obtain ⟨c, behind, rfl, hpart⟩ := hothers _ hq
      refine ends_pathTail_of_ne ?_ inside behind
      rintro rfl
      exact absurd hpart (by decide)
    rw [hends, List.flatMap_cons, hnone, List.append_nil]

/-- There is a match from the first identifier on exactly if the text is a path. -/
theorem ends_pathBody_ne_nil_iff (atStart : Bool) (cs : List Char) :
    pathBodyRegex.ends ⟨atStart, cs⟩ ≠ [] ↔ isPath cs = true := by
  fun_induction isPath cs generalizing atStart with
  | case1 cs name hread =>
    have hend := (ends_pathEnd_ne_nil_iff false []).mpr (.inl rfl)
    rw [ends_pathBody, hread]
    show pathTailRegex.ends ⟨false, []⟩ ≠ [] ↔ _
    rw [ends_pathTail, Ne, List.append_eq_nil_iff]
    simp [hend]
  | case2 cs name rest hread ih =>
    have hfurther : (furtherRegex.ends ⟨false, '.' :: rest⟩).flatMap pathTailRegex.ends
        = pathBodyRegex.ends ⟨false, rest⟩ := by
      rw [ends_further_dot]
      rfl
    rw [ends_pathBody, hread]
    show pathTailRegex.ends ⟨false, '.' :: rest⟩ ≠ [] ↔ _
    rw [ends_pathTail, hfurther, Ne, List.append_eq_nil_iff, not_and_or, ← Ne, ← Ne, ih,
      ends_pathEnd_ne_nil_iff]
    simp [or_comm]
  | case3 cs hend hdot =>
    -- Something stands behind the identifier that is neither a dot nor the end.
    rw [ends_pathBody]
    cases hread : readIdentifier? cs with
    | none => simp
    | some read =>
      obtain ⟨name, rest⟩ := read
      cases rest with
      | nil => exact absurd hread (hend name)
      | cons c rest =>
        have hc : c ≠ '.' := by
          rintro rfl
          exact hdot name rest hread
        show pathTailRegex.ends ⟨false, c :: rest⟩ ≠ [] ↔ _
        rw [ends_pathTail_of_ne hc]
        simp

/-- A match of a path is one of the whole text. -/
theorem rest_of_mem_ends_path {p q : Position} (h : q ∈ pathRegex.ends p) : q.rest = [] := by
  obtain ⟨m, -, hq⟩ := List.mem_flatMap.mp h
  obtain ⟨n, -, hq⟩ := List.mem_flatMap.mp hq
  obtain ⟨k, -, hq⟩ := List.mem_flatMap.mp hq
  rcases List.mem_append.mp hq with hstar | hend
  · obtain ⟨_, -, hq⟩ := List.mem_flatMap.mp hstar
    obtain ⟨_, -, hq⟩ := List.mem_flatMap.mp hq
    obtain ⟨rfl, hrest⟩ := eq_of_mem_ends_finish hq
    exact hrest
  · obtain ⟨rfl, hrest⟩ := eq_of_mem_ends_finish hend
    exact hrest

/-- Inside of a text there is no start. -/
theorem isFound_path_inside (cs : List Char) : pathRegex.isFound ⟨false, cs⟩ = false := by
  induction cs with
  | nil => exact isFound_nil rfl
  | cons c cs ih =>
    rw [isFound_cons, ih]
    rfl

/-- The recognizer of paths accepts the texts that match as a whole. -/
theorem isPath_eq (cs : List Char) : isPath cs = pathRegex.isFound ⟨true, cs⟩ := by
  cases cs with
  | nil =>
    rw [isFound_nil rfl]
    simp [isPath, readIdentifier?]
  | cons c cs =>
    have hbody : pathRegex.ends ⟨true, c :: cs⟩ = pathBodyRegex.ends ⟨true, c :: cs⟩ := by
      show [(⟨true, c :: cs⟩ : Position)].flatMap pathBodyRegex.ends = _
      rw [List.flatMap_singleton]
    -- A match goes up to the end of the text, so it is not an empty one.
    have hnext : pathRegex.next? ⟨true, c :: cs⟩ = (pathRegex.ends ⟨true, c :: cs⟩).head? := by
      refine next?_eq_of_head? rfl fun q hq => ?_
      rw [rest_of_mem_ends_path (List.mem_of_head? hq)]
      exact Nat.succ_pos _
    have hsome : (pathRegex.next? ⟨true, c :: cs⟩).isSome = true ↔ isPath (c :: cs) = true := by
      rw [hnext, List.isSome_head?, hbody, ends_pathBody_ne_nil_iff]
    rw [isFound_cons, isFound_path_inside, Bool.or_false]
    exact (Bool.eq_iff_iff.mpr hsome).symm

/-! ### Agreement -/

/-- The recognizer of paths and the scan for qualified columns agree. A path with a dot has one
table, and the path is this table, a dot and the name of the column, which has no dot in it. A path
without a dot is malformed as a column. The paths are the lists of identifiers with dots between
them, perhaps with `.*` behind the last one, and so they are the texts that the regular expression
matches. -/
theorem path_readings_agree (e : String) :
    (isIdentifierPath e = true → '.' ∈ e.toList →
      ∃ table, tableNames e = .ok [table] ∧ e = table ++ "." ++ columnName e ∧
        '.' ∉ (columnName e).toList) ∧
      (isIdentifierPath e = true → '.' ∉ e.toList →
        tableNames e = .error (.malformedColumn e)) ∧
      (isIdentifierPath e = true ↔ ∃ names : List String, names ≠ [] ∧
        (∀ name ∈ names, ∃ c cs, name.toList = c :: cs ∧ isIdentifierStart c = true ∧
          ∀ x ∈ cs, isIdentifierPart x = true) ∧
        ∃ ending, (ending = "" ∨ ending = ".*") ∧ e = String.intercalate "." names ++ ending) ∧
      isIdentifierPath e = pathRegex.isFound ⟨true, e.toList⟩ := by
  refine ⟨?_, ?_, ?_, isPath_eq e.toList⟩
  · -- A path with a dot has a qualifier, as an identifier has no dot in it.
    intro hpath hdot
    rcases isIdentifier_or_exists_column hpath with hname | ⟨names, column, hne, hnames, hcolumn, rfl⟩
    · exact absurd hdot (hname.notMem (by decide))
    · have hbare : '.' ∉ column.toList := notMem_of_isColumn hcolumn (by decide) (by decide)
      rw [columnName_append_dot _ hbare]
      exact ⟨_, tableNames_column hne hnames hcolumn, rfl, hbare⟩
  · intro hpath hdot
    rcases isIdentifier_or_exists_column hpath with hname | ⟨names, column, -, -, -, rfl⟩
    · exact tableNames_identifier hname
    · exact absurd (by simp) hdot
  · simp only [isIdentifierPath_iff, isIdentifier_iff]

/-- Every column of a table in a schema, with a letter outside of ASCII and a dollar sign in its
name, and a bare name. -/
theorem path_readings_agree_schema :
    isIdentifierPath "s.größe$.*" = true ∧ '.' ∈ "s.größe$.*".toList ∧
      (∃ table, tableNames "s.größe$.*" = .ok [table] ∧ "s.größe$.*" = table ++ "." ++ "*") ∧
      isIdentifierPath "größe" = true ∧ '.' ∉ "größe".toList ∧
      tableNames "größe" = .error (.malformedColumn "größe") := by
  have hschema : isIdentifierPath "s.größe$.*" = true := by
    decide +kernel
  have hdot : '.' ∈ "s.größe$.*".toList := by decide
  have hlast : columnName "s.größe$.*" = "*" := by decide +kernel
  have hbare : isIdentifierPath "größe" = true := by decide +kernel
  have hnodot : '.' ∉ "größe".toList := by decide
  obtain ⟨table, htable, heq, -⟩ := (path_readings_agree "s.größe$.*").1 hschema hdot
  rw [hlast] at heq
  exact ⟨hschema, hdot, ⟨table, htable, heq⟩, hbare, hnodot,
    (path_readings_agree "größe").2.1 hbare hnodot⟩

end Column

end SqlSelect
