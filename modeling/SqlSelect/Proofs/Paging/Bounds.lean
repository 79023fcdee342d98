import SqlSelect.Proofs.Paging.Templates
import SqlSelect.Proofs.Paging.Window
import SqlSelect.Query.Pagination

/-!
# `SqlSelect.Proofs.Paging.Bounds`: a page is the same rows in every dialect

`Query.paginate` writes a limit and an offset in one of four ways, and the clauses of the products
differ. `Bounds.select?` says what each product makes of them.

* `TemplatePart.fill_eq_words`: the template of a product is filled word by word.
* `Bounds.limited_selects`: every product that has the means selects the window.
* `Query.paginateInPlace_selects`: so a page is the same rows everywhere, and a failure leaves the
  query as it was.
-/

set_option autoImplicit false

namespace SqlSelect

open Text

/-! ### Templates by their words -/

namespace TemplatePart

/-- A filled template, word by word. -/
theorem fill_eq_words {template : String} (parts : List TemplatePart) {n m : Option Int}
    {ws : List String} (htemplate : template = String.ofList (parts.flatMap chars))
    (hparts : ∀ part ∈ parts, part.isPlain = true)
    (hws : ((parts.map (put limit n)).map (put offset m)).flatMap chars
      = [' '].intercalate (ws.map String.toList)) :
    LimitTemplate.fill template n m = String.intercalate " " ws := by
  rw [htemplate, fill_chars (parted_of_isPlain hparts), hws]
  refine String.toList_injective ?_
  rw [String.toList_ofList, String.toList_intercalate]
  rfl

end TemplatePart

namespace Bounds

/-! ### The clauses of the products -/

section Clauses

open TemplatePart

/-- The template for a limit alone, by its words. -/
theorem fill_limit (n : Nat) :
    LimitTemplate.fill " LIMIT \x7blimit\x7d" (some (n : Int)) none
      = String.intercalate " " ["", "LIMIT", toString n] :=
  fill_eq_words [text " LIMIT ".toList, limit] rfl (by decide) rfl

/-- The template for both numbers, by its words. -/
theorem fill_limit_offset (n m : Nat) :
    LimitTemplate.fill " LIMIT \x7blimit\x7d OFFSET \x7boffset\x7d" (some (n : Int))
        (some (m : Int))
      = String.intercalate " " ["", "LIMIT", toString n, "OFFSET", toString m] :=
  fill_eq_words [text " LIMIT ".toList, limit, text " OFFSET ".toList, offset]
    rfl (by decide) rfl

/-- A comma ends the word in front of it. -/
theorem comma_words (m last : String) :
    " LIMIT ".toList ++ (m.toList ++ (", ".toList ++ (last.toList ++ [])))
      = [' '].intercalate (["", "LIMIT", m ++ ",", last].map String.toList) := by
  have hwords : ["", "LIMIT", m ++ ",", last].map String.toList
      = [[], "LIMIT".toList, m.toList ++ [','], last.toList] := by
    rw [List.map_cons, List.map_cons, List.map_cons, String.toList_append]
    rfl
  rw [hwords]
  show _ = " LIMIT ".toList ++ ((m.toList ++ [',']) ++ ([' '] ++ (last.toList ++ [])))
  rw [List.append_assoc]
  rfl

/-- The offset comes first. -/
theorem fill_offset_limit (n m : Nat) :
    LimitTemplate.fill " LIMIT \x7boffset\x7d, \x7blimit\x7d" (some (n : Int)) (some (m : Int))
      = String.intercalate " " ["", "LIMIT", toString m ++ ",", toString n] :=
  fill_eq_words [text " LIMIT ".toList, offset, text ", ".toList, limit]
    rfl (by decide) (comma_words (toString m) (toString n))

/-- The template for an offset alone, by its words. -/
theorem fill_offset (m : Nat) :
    LimitTemplate.fill " OFFSET \x7boffset\x7d" none (some (m : Int))
      = String.intercalate " " ["", "OFFSET", toString m] :=
  fill_eq_words [text " OFFSET ".toList, offset] rfl (by decide) rfl

/-- A negative limit stands in front of the offset. -/
theorem fill_offset_behind (m : Nat) :
    LimitTemplate.fill " LIMIT -1 OFFSET \x7boffset\x7d" none (some (m : Int))
      = String.intercalate " " ["", "LIMIT", "-1", "OFFSET", toString m] :=
  fill_eq_words [text " LIMIT -1 OFFSET ".toList, offset] rfl (by decide) rfl

/-- The largest number of rows stands behind the offset. -/
theorem fill_offset_before (m : Nat) :
    LimitTemplate.fill " LIMIT \x7boffset\x7d, 18446744073709551615" none (some (m : Int))
      = String.intercalate " " ["", "LIMIT", toString m ++ ",", "18446744073709551615"] :=
  fill_eq_words [text " LIMIT ".toList, offset, text ", ".toList,
      text "18446744073709551615".toList]
    rfl (by decide) (comma_words (toString m) "18446744073709551615")

end Clauses

/-- The bounds select a window of the rows in a product. -/
def Selects {α : Type} (b : Backend) (bounds : Bounds) (w : Window) (rows : List α) : Prop :=
  ∃ select, bounds.select? b = some select ∧ select rows = w.select rows

section Selection

variable {α : Type} {rows : List α}

/-- A clause that is written word by word is read word by word. -/
theorem selects_clause {b : Backend} (hb : b = .postgres ∨ b = .mySql ∨ b = .sqlite)
    {text : String} {ws : List String} {read w : Window} (htext : text = String.intercalate " " ws)
    (hne : ws ≠ []) (hblank : ∀ word ∈ ws, ' ' ∉ word.toList)
    (hread : readClause? b ws = some read) (hrows : read.select rows = w.select rows) :
    Selects b (clause text) w rows := by
  refine ⟨read.select, ?_, hrows⟩
  rw [htext]
  rcases hb with rfl | rfl | rfl
  all_goals
    show (readClause? _ (words _)).map Window.select = _
    rw [words_intercalate hne hblank, hread]
    rfl

/-- A number is one word. -/
theorem blank_notMem_toString (n : Nat) : ' ' ∉ (toString n).toList :=
  Number.notMem_toString rfl n

/-- A limit alone keeps the first rows. -/
theorem selects_limit {b : Backend} (hb : b = .postgres ∨ b = .mySql ∨ b = .sqlite) (n : Nat) :
    Selects b (clause (LimitTemplate.fill " LIMIT \x7blimit\x7d" (some (n : Int)) none))
      ⟨0, some n⟩ rows := by
  refine selects_clause hb (fill_limit n) (by simp) ?_ ?_ rfl
  · simpa [-Nat.toString_eq_repr] using blank_notMem_toString n
  · simp [readClause?, -Nat.toString_eq_repr]

/-- A limit with an offset keeps the rows behind the ones that are passed over. -/
theorem selects_limit_offset {b : Backend} (hb : b = .postgres ∨ b = .mySql ∨ b = .sqlite)
    (n m : Nat) :
    Selects b (clause (LimitTemplate.fill " LIMIT \x7blimit\x7d OFFSET \x7boffset\x7d"
      (some (n : Int)) (some (m : Int)))) ⟨m, some n⟩ rows := by
  refine selects_clause hb (fill_limit_offset n m) (by simp) ?_ ?_ rfl
  · simpa [-Nat.toString_eq_repr] using ⟨blank_notMem_toString n, blank_notMem_toString m⟩
  · simp [readClause?, -Nat.toString_eq_repr]

/-- MySQL takes the offset in front of the limit, and passes over it first all the same. -/
theorem selects_offset_limit (n m : Nat) :
    Selects .mySql (clause (LimitTemplate.fill " LIMIT \x7boffset\x7d, \x7blimit\x7d"
      (some (n : Int)) (some (m : Int)))) ⟨m, some n⟩ rows := by
  refine selects_clause (.inr (.inl rfl)) (fill_offset_limit n m) (by simp) ?_ ?_ rfl
  · simpa [-Nat.toString_eq_repr] using ⟨blank_notMem_toString m, blank_notMem_toString n⟩
  · simp [readClause?, -Nat.toString_eq_repr]

/-- PostgreSQL takes an offset without a limit, and keeps all that follows. -/
theorem selects_offset (m : Nat) :
    Selects .postgres (clause (LimitTemplate.fill " OFFSET \x7boffset\x7d" none (some (m : Int))))
      ⟨m, none⟩ rows := by
  refine selects_clause (.inl rfl) (fill_offset m) (by simp) ?_ ?_ rfl
  · simpa [-Nat.toString_eq_repr] using blank_notMem_toString m
  · simp [readClause?, -Nat.toString_eq_repr]

/-- In SQLite a negative limit is none. -/
theorem selects_offset_behind (m : Nat) :
    Selects .sqlite (clause (LimitTemplate.fill " LIMIT -1 OFFSET \x7boffset\x7d" none
      (some (m : Int)))) ⟨m, none⟩ rows := by
  refine selects_clause (.inr (.inr rfl)) (fill_offset_behind m) (by simp) ?_ ?_ rfl
  · simpa [-Nat.toString_eq_repr] using blank_notMem_toString m
  · have hkeep : readKeep? .sqlite "-1" = some none := by decide
    simp [readClause?, hkeep, -Nat.toString_eq_repr]

/-- The largest number of rows that MySQL knows is no limit for fewer rows. -/
theorem selects_offset_before (hrows : rows.length < 2 ^ 63) (m : Nat) :
    Selects .mySql (clause (LimitTemplate.fill " LIMIT \x7boffset\x7d, 18446744073709551615" none
      (some (m : Int)))) ⟨m, none⟩ rows := by
  have hread : readClause? .mySql ["", "LIMIT", toString m ++ ",", "18446744073709551615"]
      = some ⟨m, some 18446744073709551615⟩ := by
    have hkeep : readKeep? .mySql "18446744073709551615" = some (some 18446744073709551615) := by
      decide
    simp [readClause?, hkeep, -Nat.toString_eq_repr]
  have hall : (rows.drop m).take 18446744073709551615 = rows.drop m := by
    refine List.take_of_length_le ?_
    rw [List.length_drop]
    omega
  refine selects_clause (.inr (.inl rfl)) (fill_offset_before m) (by simp) ?_ hread hall
  simpa [-Nat.toString_eq_repr] using blank_notMem_toString m

/-- `TOP` keeps the first rows. -/
theorem selects_top (n : Nat) :
    Selects .msSql (word ("TOP " ++ toString (n : Int))) ⟨0, some n⟩ rows := by
  have hword : "TOP " ++ toString (n : Int) = String.intercalate " " ["TOP", toString n] := by
    refine String.toList_injective ?_
    rw [String.toList_append, String.toList_intercalate]
    show _ = "TOP".toList ++ ([' '] ++ ((toString n).toList ++ []))
    rw [List.append_nil]
    rfl
  have hblank : ∀ w ∈ ["TOP", toString n], ' ' ∉ w.toList := by
    simpa [-Nat.toString_eq_repr] using blank_notMem_toString n
  refine ⟨Window.select ⟨0, some n⟩, ?_, rfl⟩
  show (readWord? (words _)).map Window.select = _
  rw [hword, words_intercalate (by simp) hblank]
  simp [readWord?, -Nat.toString_eq_repr]

end Selection

/-! ### Numbered rows -/

/-- The words of the condition on the number of a row. -/
def rowBoundWords (n m : Option Nat) : List String :=
  let upTo (last : Nat) := ["B.RN$", "<=", toString last]
  let beyond (skipped : Nat) := ["B.RN$", ">", toString skipped]
  match n, m with
  | some n, some m => beyond m ++ "AND" :: upTo (min (2 ^ 63 - 1) (m + n))
  | some n, none => upTo n
  | none, some m => beyond m
  | none, none => []

/-- The sum is kept below the largest number. -/
theorem addRows_ofNat (m n : Nat) :
    Query.addRows (m : Int) (n : Int) = ((min (2 ^ 63 - 1) (m + n) : Nat) : Int) := by
  unfold Query.addRows Number.int64Bounds
  omega

/-- A count is written in the same way as an integer. -/
theorem toString_natCast (n : Nat) : toString (n : Int) = toString n := rfl

/-- The condition stands behind the outermost statement. -/
theorem rowBound_eq_words {n m : Option Nat} (h : n.isSome ∨ m.isSome) :
    ") A) B WHERE " ++ Query.rowBound (n.map Nat.cast) (m.map Nat.cast)
      = String.intercalate " " ([")", "A)", "B", "WHERE"] ++ rowBoundWords n m) := by
  refine String.toList_injective ?_
  cases n with
  | none =>
    cases m with
    | none => simp at h
    | some m =>
      simp [Query.rowBound, Query.rowNumberAlias, rowBoundWords, toString_natCast,
        -Nat.toString_eq_repr, -Int.toString_eq_repr]
  | some n =>
    cases m with
    | none =>
      simp [Query.rowBound, Query.rowNumberAlias, rowBoundWords, toString_natCast,
        -Nat.toString_eq_repr, -Int.toString_eq_repr]
    | some m =>
      have hlast : toString (Query.addRows (m : Int) (n : Int))
          = toString (min (2 ^ 63 - 1) (m + n)) :=
        congrArg toString (addRows_ofNat m n)
      simp [Query.rowBound, Query.rowNumberAlias, rowBoundWords, hlast, toString_natCast,
        -Nat.toString_eq_repr, -Int.toString_eq_repr]

/-- The condition on the number of a row falls apart into these words and no others. -/
theorem blank_notMem_rowBoundWords (n m : Option Nat) :
    ∀ w ∈ rowBoundWords n m, ' ' ∉ w.toList := by
  cases n <;> cases m <;>
    simp [rowBoundWords, blank_notMem_toString, -Nat.toString_eq_repr]

/-- The test that is read passes the numbers in the window. No row has a number above the largest
one, so the sum may be kept below it. -/
theorem readRowTest?_rowBoundWords {n m : Option Nat} (h : n.isSome ∨ m.isSome) :
    ∃ test, readRowTest? "B.RN$" (rowBoundWords n m) = some test ∧
      ∀ i, 0 < i → i < 2 ^ 63 → test i = Window.has ⟨m.getD 0, n⟩ i := by
  cases n with
  | none =>
    cases m with
    | none => simp at h
    | some m =>
      refine ⟨fun i => decide (m < i), ?_, fun i hi hle => by simp [Window.has]⟩
      simp [rowBoundWords, readRowTest?, readComparison?, -Nat.toString_eq_repr]
  | some n =>
    cases m with
    | none =>
      refine ⟨fun i => decide (i ≤ n), ?_, fun i hi hle => by simp [Window.has, hi]⟩
      simp [rowBoundWords, readRowTest?, readComparison?, -Nat.toString_eq_repr]
    | some m =>
      refine ⟨fun i => decide (m < i) && decide (i ≤ min (2 ^ 63 - 1) (m + n)), ?_, ?_⟩
      · simp [rowBoundWords, readRowTest?, readComparison?, -Nat.toString_eq_repr]
      · intro i hi hle
        -- No row has a number beyond the largest one, so cutting the bound down loses none.
        have hsum : i ≤ min (2 ^ 63 - 1) (m + n) ↔ i ≤ m + n := by omega
        show (decide (m < i) && decide (i ≤ min (2 ^ 63 - 1) (m + n))) = _
        rw [decide_eq_decide.mpr hsum]
        rfl

/-- The condition on the numbers of the rows is read as a test that passes those in the window. -/
theorem readSubquery?_rowBound {n m : Option Nat} (h : n.isSome ∨ m.isSome) :
    ∃ test, readSubquery?
        (words ("SELECT B.* FROM (SELECT A.*, rownum AS " ++ Query.rowNumberAlias ++ " FROM ("))
        (words (") A) B WHERE " ++ Query.rowBound (n.map Nat.cast) (m.map Nat.cast)))
          = some test ∧
      ∀ i, 0 < i → i < 2 ^ 63 → test i = Window.has ⟨m.getD 0, n⟩ i := by
  have hbefore : words ("SELECT B.* FROM (SELECT A.*, rownum AS " ++ Query.rowNumberAlias ++
      " FROM (") = ["SELECT", "B.*", "FROM", "(SELECT", "A.*,", "rownum", "AS", "RN$", "FROM",
        "("] := by
    decide
  have hframe : ∀ w ∈ [")", "A)", "B", "WHERE"], ' ' ∉ w.toList := by decide
  have hbehind : words (") A) B WHERE " ++ Query.rowBound (n.map Nat.cast) (m.map Nat.cast))
      = [")", "A)", "B", "WHERE"] ++ rowBoundWords n m := by
    rw [rowBound_eq_words h]
    refine words_intercalate (by simp) fun w hw => ?_
    rcases List.mem_append.mp hw with hw | hw
    · exact hframe w hw
    · exact blank_notMem_rowBoundWords n m w hw
  obtain ⟨test, hread, htest⟩ := readRowTest?_rowBoundWords h
  refine ⟨test, ?_, htest⟩
  rw [hbefore, hbehind]
  exact hread

/-- The condition on the number of a row keeps the window. An upper bound that would be too large
for a number is cut down to the largest one, which no row is beyond. -/
theorem selects_rowNumber {α : Type} {rows : List α} (hrows : rows.length < 2 ^ 63)
    {n m : Option Nat} (h : n.isSome ∨ m.isSome) :
    Selects .oracle (subquery
        ("SELECT B.* FROM (SELECT A.*, rownum AS " ++ Query.rowNumberAlias ++ " FROM (")
        (") A) B WHERE " ++ Query.rowBound (n.map Nat.cast) (m.map Nat.cast)))
      ⟨m.getD 0, n⟩ rows := by
  obtain ⟨test, hread, htest⟩ := readSubquery?_rowBound h
  refine ⟨selectNumbered test, ?_, selectNumbered_eq fun i hi hle => htest i hi (by omega)⟩
  show (readSubquery? (words _) (words _)).map selectNumbered = _
  rw [hread]
  rfl

/-! ### Every product -/

/-- The bounds that are written select the window, unless the product has no means for them. -/
theorem limited_selects {σ : Type} (q : Query σ) (b : Backend) {n m : Option Nat}
    (h : n.isSome ∨ m.isSome) :
    ((b = .derby ∨ b = .msSql ∧ m.isSome) ∧
      ∃ fault, q.limited (n.map Nat.cast) (m.map Nat.cast) b.dialect.pagination = .error fault) ∨
    (¬ (b = .derby ∨ b = .msSql ∧ m.isSome) ∧
      ∃ bounds : Bounds, q.limited (n.map Nat.cast) (m.map Nat.cast) b.dialect.pagination
          = .ok (bounds.addTo q) ∧
        ∀ {α : Type} (rows : List α), rows.length < 2 ^ 63 →
          bounds.Selects b ⟨m.getD 0, n⟩ rows) := by
  cases b with
  | postgres =>
    refine .inr ⟨by simp, ?_⟩
    match n, m with
    | some n, none => exact ⟨_, rfl, fun _ _ => selects_limit (.inl rfl) n⟩
    | some n, some m => exact ⟨_, rfl, fun _ _ => selects_limit_offset (.inl rfl) n m⟩
    | none, some m => exact ⟨_, rfl, fun _ _ => selects_offset m⟩
  | mySql =>
    refine .inr ⟨by simp, ?_⟩
    match n, m with
    | some n, none => exact ⟨_, rfl, fun _ _ => selects_limit (.inr (.inl rfl)) n⟩
    | some n, some m => exact ⟨_, rfl, fun _ _ => selects_offset_limit n m⟩
    | none, some m => exact ⟨_, rfl, fun _ hrows => selects_offset_before hrows m⟩
  | sqlite =>
    refine .inr ⟨by simp, ?_⟩
    match n, m with
    | some n, none => exact ⟨_, rfl, fun _ _ => selects_limit (.inr (.inr rfl)) n⟩
    | some n, some m => exact ⟨_, rfl, fun _ _ => selects_limit_offset (.inr (.inr rfl)) n m⟩
    | none, some m => exact ⟨_, rfl, fun _ _ => selects_offset_behind m⟩
  | oracle => exact .inr ⟨by simp, _, rfl, fun _ hrows => selects_rowNumber hrows h⟩
  | msSql =>
    -- TOP cannot pass over rows, so an offset fails with a limit and without one.
    match n, m with
    | some n, none => exact .inr ⟨by simp, _, rfl, fun _ _ => selects_top n⟩
    | some n, some m => exact .inl ⟨by simp, _, rfl⟩
    | none, some m => exact .inl ⟨by simp, _, rfl⟩
  | derby => exact .inl ⟨.inl rfl, _, rfl⟩

/-- Whether a product has no means for a limit and an offset: Derby for none at all, and SQL Server
for no offset. -/
def LacksMeans (b : Backend) (limit offset : Option Int) : Prop :=
  b = .derby ∧ (limit.isSome ∨ 0 < offset.getD 0) ∨ b = .msSql ∧ 0 < offset.getD 0

end Bounds

namespace Query

/-- Only a positive offset counts. -/
theorem isSome_effectiveOffset (offset : Option Int) :
    (effectiveOffset offset).isSome ↔ 0 < offset.getD 0 := by
  cases offset with
  | none => simp [effectiveOffset]
  | some m => simp [effectiveOffset, Option.filter]

/-- With a limit or an offset that counts, rows are limited by their numbers. -/
theorem paginate_byRowNumber {σ : Type} (q : Query σ) {d : Dialect}
    (hmeans : d.pagination = .rowNumber) {limit offset : Option Int}
    (hbound : limit.isSome ∨ 0 < offset.getD 0) :
    q.paginate d limit offset = .ok (q.byRowNumber limit (effectiveOffset offset)) := by
  rw [← isSome_effectiveOffset] at hbound
  rw [paginate_of_bounded hbound, hmeans]
  rfl

/-- An offset that does not count passes over no rows. -/
theorem effectiveOffset_eq (offset : Option Int) :
    ∃ m : Option Nat, effectiveOffset offset = m.map Nat.cast ∧
      m.getD 0 = (offset.getD 0).toNat := by
  cases offset with
  | none => exact ⟨none, rfl, rfl⟩
  | some m =>
    by_cases hm : 0 < m
    · refine ⟨some m.toNat, ?_, rfl⟩
      have hcast : ((m.toNat : Nat) : Int) = m := Int.toNat_of_nonneg (Int.le_of_lt hm)
      simp [effectiveOffset, hm, hcast]
    · refine ⟨none, by simp [effectiveOffset, Int.not_lt.mp hm], ?_⟩
      show 0 = m.toNat
      omega

/-- A limit that is not negative is a count. -/
theorem eq_map_natCast {limit : Option Int} (h : ∀ n ∈ limit, 0 ≤ n) :
    limit = (limit.map Int.toNat).map Nat.cast := by
  cases limit with
  | none => rfl
  | some n => exact congrArg some (Int.toNat_of_nonneg (h n rfl)).symm

/-- What `paginate` puts into a query selects the window that was asked for, and it fails where the
product has no means for it. -/
theorem paginate_selects {σ : Type} (q : Query σ) (b : Backend) {limit : Option Int}
    (hlimit : ∀ n ∈ limit, 0 ≤ n) (offset : Option Int) :
    (Bounds.LacksMeans b limit offset ∧
      ∃ fault : PaginationFault, q.paginate b.dialect limit offset
        = .error (.unsupportedPagination b.dialect.name fault.message)) ∨
    (¬ Bounds.LacksMeans b limit offset ∧
      ∃ bounds : Bounds, q.paginate b.dialect limit offset = .ok (bounds.addTo q) ∧
        ∀ {α : Type} (rows : List α), rows.length < 2 ^ 63 →
          bounds.Selects b (Window.ofBounds limit offset) rows) := by
  obtain ⟨m, hoffset, hskip⟩ := effectiveOffset_eq offset
  have hsome : 0 < offset.getD 0 ↔ m.isSome := by
    rw [← isSome_effectiveOffset, hoffset, Option.isSome_map]
  have hmap := eq_map_natCast hlimit
  have hwindow : Window.ofBounds limit offset = ⟨m.getD 0, limit.map Int.toNat⟩ := by
    rw [hskip]
    rfl
  unfold Bounds.LacksMeans
  rw [hsome, hwindow]
  rcases bounded_or_unbounded limit offset with hbounded | ⟨hlimitNone, hoffsetNone⟩
  · rw [paginate_of_bounded hbounded, hoffset]
    have hgiven : limit.isSome ∨ m.isSome := by
      rwa [hoffset, Option.isSome_map] at hbounded
    simp only [hgiven, and_true]
    rw [← Option.isSome_map (f := Int.toNat)] at hgiven
    rcases Bounds.limited_selects q b hgiven with
      ⟨hlacks, fault, hfails⟩ | ⟨hmeans, bounds, hlimited, hselects⟩
    · rw [← hmap] at hfails
      exact .inl ⟨hlacks, fault, by rw [hfails]⟩
    · rw [← hmap] at hlimited
      exact .inr ⟨hmeans, bounds, by rw [hlimited], hselects⟩
  · -- Nothing is asked for, and nothing is written.
    rw [paginate_of_unbounded hlimitNone hoffsetNone]
    obtain rfl : m = none := by
      rwa [hoffset, Option.map_eq_none_iff] at hoffsetNone
    subst hlimitNone
    exact .inr ⟨by simp, .nothing, rfl, fun _ _ => ⟨id, rfl, rfl⟩⟩

/-- A page is the same rows in every product. A limit and an offset put bounds into a query by
which the product selects the window of the rows that they ask for; where the product has no means
for them, that is said and the query stays as it was. -/
theorem paginateInPlace_selects {σ : Type} (q : Query σ) (b : Backend) {limit : Option Int}
    (hlimit : ∀ n ∈ limit, 0 ≤ n) (offset : Option Int) :
    let outcome := Id.run ((paginateInPlace b.dialect limit offset).run.run q)
    (Bounds.LacksMeans b limit offset ∧ outcome.2 = q ∧
      ∃ fault : PaginationFault,
        outcome.1 = .error (.unsupportedPagination b.dialect.name fault.message)) ∨
    (¬ Bounds.LacksMeans b limit offset ∧ outcome.1 = .ok () ∧
      ∃ bounds : Bounds, outcome.2 = bounds.addTo q ∧
        ∀ {α : Type} (rows : List α), rows.length < 2 ^ 63 →
          bounds.Selects b (Window.ofBounds limit offset) rows) := by
  dsimp only
  rw [run_paginateInPlace]
  rcases paginate_selects q b hlimit offset with
    ⟨hlacks, fault, hfails⟩ | ⟨hmeans, bounds, hpaginated, hselects⟩
  · rw [hfails]
    exact .inl ⟨hlacks, rfl, fault, rfl⟩
  · rw [hpaginated]
    exact .inr ⟨hmeans, rfl, bounds, rfl, hselects⟩

/-- Five rows behind the first three of ten. -/
theorem paginateInPlace_selects_fiveOfTen :
    ∃ bounds : Bounds,
      Id.run ((paginateInPlace Backend.oracle.dialect (some 5) (some 3)).run.run
        ({ columns := ["*"], sources := ["t"] } : Query String))
          = (.ok (), bounds.addTo { columns := ["*"], sources := ["t"] }) ∧
      (bounds.addTo ({ columns := ["*"], sources := ["t"] } : Query String)).text
        = "SELECT B.* FROM (SELECT A.*, rownum AS RN$ FROM (SELECT * FROM t) A) B" ++
          " WHERE B.RN$ > 3 AND B.RN$ <= 8" ∧
      ∃ select, bounds.select? .oracle = some select ∧
        select (List.range 10) = [3, 4, 5, 6, 7] := by
  have hlimit : ∀ n ∈ some (5 : Int), 0 ≤ n := by simp
  rcases paginateInPlace_selects ({ columns := ["*"], sources := ["t"] } : Query String) .oracle
      hlimit (some 3) with ⟨hlacks, -⟩ | ⟨-, hresult, bounds, hquery, hselects⟩
  · simp [Bounds.LacksMeans] at hlacks
  · refine ⟨bounds, Prod.ext hresult hquery, ?_, hselects (List.range 10) (by simp)⟩
    rw [← hquery]
    decide +kernel

end Query

end SqlSelect
