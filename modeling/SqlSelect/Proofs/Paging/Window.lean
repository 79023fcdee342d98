import Mathlib.Algebra.Group.Nat.Defs
import SqlSelect.Dialect.Backend
import SqlSelect.Proofs.Digits
import SqlSelect.Query.SelectAlias
import SqlSelect.Query.Basic

/-!
# `SqlSelect.Proofs.Paging.Window`: which rows a product returns

The rows of a statement are a list, and a limit and an offset ask for a window of it. `Bounds` are
the texts that a statement may have in it to limit its rows. How a product reads such a text is said
here in terms of words and numbers, without a look at how the text was written.

* `Bounds.select?`: the rows that a product returns for a statement with some bounds. It is `none`
  where the text is no clause of the product.
* `Bounds.words_intercalate`, `Number.readInteger?_toString`: words and numbers are read as they
  were written.
* `Bounds.selectNumbered_eq`: where the rows are numbered from 1 on, a test that passes the numbers
  in a window leaves the rows in it.
-/

set_option autoImplicit false

namespace SqlSelect

/-- Some of the rows of a statement. -/
structure Window where
  /-- The number of rows that are passed over. -/
  skip : Nat
  /-- The number of rows that are returned at most. -/
  keep : Option Nat := none

namespace Window

variable {α : Type}

/-- The rows in the window. -/
def select (w : Window) (rows : List α) : List α :=
  match w.keep with
  | some n => (rows.drop w.skip).take n
  | none => rows.drop w.skip

/-- The window that a limit and an offset ask for. -/
def ofBounds (limit offset : Option Int) : Window where
  skip := (offset.getD 0).toNat
  keep := limit.map Int.toNat

end Window

/-- What a statement has in it to limit its rows. -/
inductive Bounds where
  | nothing
  /-- A clause at its end. -/
  | clause (text : String)
  /-- A word with a number behind `SELECT`. -/
  | word (text : String)
  /-- The texts around it, as the innermost of three statements. -/
  | subquery (before behind : String)

namespace Bounds

/-- A query with bounds in it. The columns of a subquery have names of their own. -/
def addTo {σ : Type} (q : Query σ) : Bounds → Query σ
  | nothing => q
  | clause text => { q with limitText := some text }
  | word text => { q with modifiers := q.modifiers ++ [text] }
  | subquery before behind => { q with
      columns := Query.aliasDuplicates q.columns
      beforeText := some before
      afterText := some behind }

/-! ### Reading -/

/-- The words of a text, cut at its blanks. -/
def words (text : String) : List String :=
  (text.toList.splitOn ' ').map String.ofList

/-- The number of rows that a word writes. -/
def readCount? (word : String) : Option Nat :=
  (Number.readInteger? word.toList).bind Int.toNat?

/-- The word behind `LIMIT`: a number of rows, or a negative number, which sets no limit in SQLite
and is an error in the other products. -/
def readKeep? (b : Backend) (word : String) : Option (Option Nat) :=
  match Number.readInteger? word.toList with
  | some (.ofNat n) => some (some n)
  | some (.negSucc _) => if b = .sqlite then some none else none
  | none => none

/-- A word with a comma at its end, without the comma. -/
def beforeComma? (word : String) : Option String :=
  match word.toList.splitOn ',' with
  | [cs, []] => some (String.ofList cs)
  | _ => none

/-- The clauses behind a statement: the limit first and then the offset, or the offset first with a
comma behind it. Only PostgreSQL takes an offset without a limit, and it does not know the comma. -/
def readClause? (b : Backend) : List String → Option Window
  | ["", "LIMIT", n] => (readKeep? b n).map fun keep => ⟨0, keep⟩
  | ["", "LIMIT", n, "OFFSET", m] => do return ⟨← readCount? m, ← readKeep? b n⟩
  | ["", "LIMIT", m, n] =>
    if b = .postgres then none
    else do return ⟨← readCount? (← beforeComma? m), ← readKeep? b n⟩
  | ["", "OFFSET", m] =>
    if b = .postgres then (readCount? m).map fun skip => ⟨skip, none⟩ else none
  | _ => none

/-- The word behind `SELECT`. -/
def readWord? : List String → Option Window
  | ["TOP", n] => (readCount? n).map fun keep => ⟨0, some keep⟩
  | _ => none

/-- The name under which the middle one of three statements numbers the rows of the innermost
one. -/
def readNumbering? : List String → Option String
  | ["SELECT", "B.*", "FROM", "(SELECT", "A.*,", "rownum", "AS", name, "FROM", "("] => some name
  | _ => none

/-- A comparison of the number of a row with another number. -/
def readComparison? (column left operator right : String) : Option (Nat → Bool) :=
  if left = column then
    match operator with
    | ">" => (readCount? right).map fun n i => n < i
    | "<=" => (readCount? right).map fun n i => i ≤ n
    | _ => none
  else none

/-- A condition on the number of a row. -/
def readRowTest? (column : String) : List String → Option (Nat → Bool)
  | [left, operator, right] => readComparison? column left operator right
  | left :: operator :: right :: "AND" :: rest => do
    let first ← readComparison? column left operator right
    let others ← readRowTest? column rest
    return fun i => first i && others i
  | _ => none

/-- The condition behind the outermost one of three statements. -/
def readSubquery? (before behind : List String) : Option (Nat → Bool) :=
  match behind with
  | ")" :: "A)" :: "B" :: "WHERE" :: condition =>
    (readNumbering? before).bind fun name => readRowTest? ("B." ++ name) condition
  | _ => none

/-- The rows whose numbers, counted from 1, pass a test. -/
def selectNumbered {α : Type} (test : Nat → Bool) (rows : List α) : List α :=
  ((rows.zipIdx 1).filter fun row => test row.2).map Prod.fst

/-- The rows that a product returns for a statement with bounds, by the rows of the statement
without them. PostgreSQL, MySQL and SQLite read clauses, SQL Server reads `TOP`, and Oracle numbers
the rows of a subquery. -/
def select? {α : Type} (b : Backend) : Bounds → Option (List α → List α)
  | nothing => some id
  | clause text =>
    match b with
    | .postgres | .mySql | .sqlite => (readClause? b (words text)).map Window.select
    | _ => none
  | word text =>
    match b with
    | .msSql => (readWord? (words text)).map Window.select
    | _ => none
  | subquery before behind =>
    match b with
    | .oracle => (readSubquery? (words before) (words behind)).map selectNumbered
    | _ => none

end Bounds

/-! ### Words and numbers -/

/-- A number is read as it was written. -/
theorem Number.readInteger?_toString (n : Nat) :
    readInteger? (toString n).toList = some (n : Int) := by
  rw [toList_toString]
  have hdigits := fun c (hc : c ∈ digits n) => isDigit_of_mem_digits hc
  have hvalue := digitsValue_digits n
  cases hds : digits n with
  | nil => exact absurd hds Nat.toDigits_ne_nil
  | cons c cs =>
    rw [hds] at hdigits hvalue
    -- The first character is a digit, so it is no sign.
    have hfirst := hdigits c List.mem_cons_self
    have hminus : c ≠ '-' := by
      rintro rfl
      cases hfirst
    have hplus : c ≠ '+' := by
      rintro rfl
      cases hfirst
    have hall : (c :: cs).all Char.isDigit = true := List.all_eq_true.mpr hdigits
    unfold readInteger?
    split
    rename_i negative ds hsign
    split at hsign
    · exact absurd (List.cons.inj ‹_›).1 hminus
    · exact absurd (List.cons.inj ‹_›).1 hplus
    · cases hsign
      simp only [hall, hvalue]
      rfl

namespace Bounds

/-- Words with blanks between them are read as these words. -/
theorem words_intercalate {ws : List String} (hne : ws ≠ []) (h : ∀ w ∈ ws, ' ' ∉ w.toList) :
    words (String.intercalate " " ws) = ws := by
  have hblanks : ∀ cs ∈ ws.map String.toList, ' ' ∉ cs := by
    intro cs hcs
    obtain ⟨w, hw, rfl⟩ := List.mem_map.mp hcs
    exact h w hw
  rw [words, String.toList_intercalate]
  show (([' '].intercalate (ws.map String.toList)).splitOn ' ').map String.ofList = ws
  rw [List.splitOn_intercalate ' ' hblanks (by simpa using hne), List.map_map]
  exact List.map_id'' (fun w => String.ofList_toList) ws

/-- A count is read as it was written. -/
@[simp] theorem readCount?_toString (n : Nat) : readCount? (toString n) = some n := by
  rw [readCount?, Number.readInteger?_toString]
  rfl

/-- A limit is read as it was written, by every product. -/
@[simp] theorem readKeep?_toString (b : Backend) (n : Nat) :
    readKeep? b (toString n) = some (some n) := by
  rw [readKeep?, Number.readInteger?_toString]

/-- A number with a comma behind it is read as the number. -/
@[simp] theorem beforeComma?_toString (n : Nat) :
    beforeComma? (toString n ++ ",") = some (toString n) := by
  have hparts : ∀ cs ∈ [(toString n).toList, []], ',' ∉ cs := by
    simpa using Number.notMem_toString (c := ',') rfl n
  have hcut : (toString n ++ ",").toList.splitOn ',' = [(toString n).toList, []] := by
    rw [← List.splitOn_intercalate ',' hparts (by simp)]
    simp
  rw [beforeComma?, hcut]
  exact congrArg some String.ofList_toList

end Bounds

/-! ### Numbered rows -/

/-- Where the rows are numbered from `k + 1` on, a test for numbers above `m` and up to `n` drops
the rows up to `m` and keeps those up to `n`. -/
theorem map_fst_filter_zipIdx {α : Type} {test : Nat → Bool} {m n : Nat} (rows : List α) (k : Nat)
    (h : ∀ i, k < i → i ≤ k + rows.length → test i = (decide (m < i) && decide (i ≤ n))) :
    ((rows.zipIdx (k + 1)).filter fun row => test row.2).map Prod.fst
      = (rows.drop (m - k)).take (n - max m k) := by
  induction rows generalizing k with
  | nil => simp
  | cons row rows ih =>
    have hfirst := h (k + 1) (by omega) (by simp)
    have hrest := ih (k + 1) fun i hi hle => h i (by omega) (by rw [List.length_cons]; omega)
    rw [List.zipIdx_cons]
    by_cases hm : m ≤ k
    · have hskip : m - k = 0 := by omega
      have hskip' : m - (k + 1) = 0 := by omega
      rw [hskip'] at hrest
      by_cases hn : k + 1 ≤ n
      · -- The first row has a number between the bounds.
        have hkeep : n - max m k = (n - max m (k + 1)) + 1 := by omega
        have htest : test (k + 1) = true := by simp [hfirst]; omega
        simp [htest, hrest, hskip, hkeep]
      · have hkeep : n - max m k = 0 := by omega
        have hkeep' : n - max m (k + 1) = 0 := by omega
        have htest : test (k + 1) = false := by simp [hfirst]; omega
        simp [htest, hrest, hkeep, hkeep']
    · have hskip : m - k = (m - (k + 1)) + 1 := by omega
      have hkeep : max m k = max m (k + 1) := by omega
      have htest : test (k + 1) = false := by simp [hfirst]; omega
      simp [htest, hrest, hskip, hkeep]

/-- Whether a window has the row with a number, where the first row has the number 1. -/
def Window.has (w : Window) (i : Nat) : Bool :=
  w.skip < i && (w.keep.map fun n => decide (i ≤ w.skip + n)).getD true

/-- A test that passes the numbers in a window selects the window. -/
theorem Bounds.selectNumbered_eq {α : Type} {w : Window} {test : Nat → Bool} {rows : List α}
    (h : ∀ i, 0 < i → i ≤ rows.length → test i = w.has i) :
    selectNumbered test rows = w.select rows := by
  obtain ⟨skip, keep⟩ := w
  have hrows {n : Nat} (hn : ∀ i, 0 < i → i ≤ rows.length →
      test i = (decide (skip < i) && decide (i ≤ n))) :
      selectNumbered test rows = (rows.drop skip).take (n - skip) := by
    have := map_fst_filter_zipIdx rows 0 fun i hi hle => hn i hi (by omega)
    simpa [selectNumbered] using this
  cases keep with
  | some n =>
    rw [hrows (n := skip + n) fun i hi hle => h i hi hle, Nat.add_sub_cancel_left]
    rfl
  | none =>
    -- Without a limit every row up to the last one is kept.
    rw [hrows (n := skip + rows.length) fun i hi hle => ?_]
    · rw [List.take_of_length_le (by rw [List.length_drop]; omega)]
      rfl
    · rw [h i hi hle]
      simp [Window.has]
      omega

end SqlSelect
