import SqlSelect.Proofs.Literals.Comparison
import SqlSelect.Proofs.Meaning.Predicates
import SqlSelect.Proofs.Rendering.Writer

/-!
# `SqlSelect.Proofs.Meaning.Membership`: tests for a list, as a database evaluates them

A list is written without the NULLs in it, since a comparison with NULL is unknown: `IN` would
never find it, and `NOT IN` would never be true. A test for NULL stands for them. The text of such a
test has one of four forms, and each has an opposite. Whichever it is, the test is true for the rows
that were asked for.

* `Test.readsCondition_membershipSql`: how the text is read.
* `Test.value_membershipCondition_some`, `Test.value_membershipCondition_none`: the value of what is
  read, for a value in the column and for NULL.
* `Criterion.membership_means`: both together, for every list that passes its check.
-/

set_option autoImplicit false

namespace SqlSelect

/-! ### Operands -/

/-- An operand of a test for a list. -/
inductive Term where
  /-- The column that is tested. -/
  | column
  | value (v : SqlValue)
  | number (n : Nat)

/-- How a database compares its values. Only numbers are sure to be equal to themselves. -/
structure Comparing (V : Type) where
  ofValue : SqlValue → V
  ofNumber : Nat → V
  same : V → V → Bool
  same_self : ∀ n, same (ofNumber n) (ofNumber n) = true

namespace Term

/-- The value of an operand in a row that has `c` in the column. -/
def eval {V : Type} (db : Comparing V) (c : Option V) : Term → Option V
  | column => c
  | value v => if v.isNull then none else some (db.ofValue v)
  | number n => some (db.ofNumber n)

/-- Writes an operand. -/
def write (w : Writer) (name : String) : Term → Writing String
  | column => return w.identifier name
  | value v => w.value v
  | number n => return toString n

/-- An operand in SQL text. -/
def sql (s : Style) (name : String) : Term → Sql
  | column => Sql.ofText (s.identifier name)
  | value v => s.value false v
  | number n => Sql.ofText (toString n)

/-- A term is written as its SQL text, and binds what this binds. -/
theorem writes_write {w : Writer} (name : String) (t : Term) :
    Writes w (t.write w name) (t.sql w.toStyle name) := by
  cases t with
  | column => exact writes_text _
  | value v => exact writes_value v
  | number n => exact writes_text _

/-- The texts of some operands with what they stand for, when `used` values are bound before. -/
def written (s : Style) (name : String) (mode : RenderMode) (used : Nat) :
    List Term → List (String × Term)
  | [] => []
  | t :: ts => ((t.sql s name).render s.dialect mode used, t) ::
      written s name mode (used + ((t.sql s name).boundIn mode).length) ts

/-- The terms with their texts are the rendered texts, one for each term. -/
theorem written_eq_zip (s : Style) (name : String) (mode : RenderMode) (used : Nat)
    (ts : List Term) :
    written s name mode used ts
      = (Sql.renderAll s.dialect mode used (ts.map (sql s name))).zip ts := by
  induction ts generalizing used with
  | nil => rfl
  | cons t ts ih => rw [written, ih, List.map_cons, Sql.renderAll, List.zip_cons_cons]

/-- No term is lost when its text is written. -/
theorem map_snd_written (s : Style) (name : String) (mode : RenderMode) (used : Nat)
    (ts : List Term) : (written s name mode used ts).map Prod.snd = ts := by
  induction ts generalizing used with
  | nil => rfl
  | cons t ts ih => rw [written, List.map_cons, ih]

/-- The column of a test is written in one way in all places and modes. -/
@[simp] theorem render_sql_column (s : Style) (name : String) (mode : RenderMode) (used : Nat) :
    (sql s name column).render s.dialect mode used = s.identifier name :=
  Sql.render_ofText ..

/-- A column binds no value. -/
@[simp] theorem boundIn_sql_column (s : Style) (name : String) (mode : RenderMode) :
    (sql s name column).boundIn mode = [] :=
  Sql.boundIn_ofText ..

/-- The column is written alike, whatever was bound, and binds nothing. -/
theorem written_column (s : Style) (name : String) (mode : RenderMode) (used : Nat)
    (ts : List Term) :
    written s name mode used (column :: ts)
      = (s.identifier name, column) :: written s name mode used ts := by
  rw [written, render_sql_column, boundIn_sql_column]
  rfl

/-- A column behind other terms has the text that it has in front of them. -/
theorem written_append_column (s : Style) (name : String) (mode : RenderMode) (used : Nat)
    (ts : List Term) :
    written s name mode used (ts ++ [column])
      = written s name mode used ts ++ [(s.identifier name, column)] := by
  induction ts generalizing used with
  | nil => exact written_column s name mode used []
  | cons t ts ih => rw [List.cons_append, written, ih, written, List.cons_append]

end Term

/-! ### What is written -/

namespace Test

/-- The operands of a test for a list with the values `known` in it, and with NULL in it or not. -/
def listTerms : List SqlValue → Bool → List Term
  | [], false => [.number 1, .number 1]
  | [], true => [.column]
  | v :: vs, false => .column :: (v :: vs).map .value
  | v :: vs, true => .column :: (v :: vs).map .value ++ [.column]

/-- The condition that such a test, or its opposite, is read as. -/
def listCondition (negated : Bool) : List SqlValue → Bool → Condition Term
  | [], false => ⟨.atom 0, [.equals (!negated) (.number 1) (.number 1)]⟩
  | [], true => ⟨.atom 0, [.isNull negated .column]⟩
  | v :: vs, false => ⟨.atom 0, [.isIn negated .column ((v :: vs).map .value)]⟩
  | v :: vs, true => ⟨.joined (if negated then .and else .or) (.atom 0) (.atom 1),
      [.isIn negated .column ((v :: vs).map .value), .isNull negated .column]⟩

/-- The operands of a test for a list. -/
def membershipTerms (values : List SqlValue) : List Term :=
  listTerms (values.filter fun v => !v.isNull) (values.any SqlValue.isNull)

/-- The condition that a test for a list is read as. -/
def membershipCondition (negated : Bool) (values : List SqlValue) : Condition Term :=
  listCondition negated (values.filter fun v => !v.isNull) (values.any SqlValue.isNull)

variable (s : Style) (mode : RenderMode) (used : Nat) (name : String)

/-- The items of a list are read back from the text between its parentheses. -/
theorem readsItems_written (v : SqlValue) (vs : List SqlValue) :
    ReadsItems (Term.written s name mode used ((v :: vs).map .value))
      ((Sql.joinWith "," ((v :: vs).map (s.value false))).render s.dialect mode used) := by
  induction vs generalizing v used with
  | nil => exact .last _
  | cons v' vs ih =>
    simp only [List.map_cons, Sql.render_joinWith_cons_cons]
    exact .cons _ (ih _ v')

/-- The text of a list, cut behind its column and its operator. -/
theorem render_listSql (negated : Bool) (values : List SqlValue) :
    (listSql s false (s.identifier name) negated values).render s.dialect mode used
      = s.identifier name ++ ((if negated then " NOT IN (" else " IN (") ++
          (Sql.joinWith "," (values.map (s.value false))).render s.dialect mode used ++ ")") := by
  show Sql.render s.dialect mode used (Sql.ofText (s.identifier name) ++
    Sql.ofText (listOperator negated).sql ++
      (Sql.joinWith "," (values.map (s.value false))).parenthesized) = _
  cases negated <;>
    simp [Sql.render_append, listOperator, Operator.sql, ← String.append_assoc]

/-- The predicate about the values of a list. -/
theorem readsPredicate_listSql (negated : Bool) (v : SqlValue) (vs : List SqlValue) :
    ReadsPredicate (Term.written s name mode used (.column :: (v :: vs).map .value))
      ((listSql s false (s.identifier name) negated (v :: vs)).render s.dialect mode used)
      (.isIn negated .column ((v :: vs).map .value)) := by
  have hitems := readsItems_written s mode used name v vs
  have hread := ReadsOperator.isIn negated (x := Term.column) hitems
  rw [Term.map_snd_written] at hread
  rw [render_listSql, Term.written_column]
  exact .intro (s.identifier name, Term.column) hread

/-- The test for NULL. -/
theorem readsPredicate_nullTest (negated : Bool) :
    ReadsPredicate [(s.identifier name, Term.column)] (s.identifier name ++ nullTestSql negated)
      (.isNull negated Term.column) := by
  have hread := ReadsOperator.isNull (x := Term.column) negated
  have htest : nullTestSql negated = if negated then " IS NOT NULL" else " IS NULL" := by
    cases negated <;> rfl
  rw [htest]
  exact .intro (s.identifier name, Term.column) hread

/-- The text of a test for a list is read as its condition. -/
theorem readsCondition_membershipSql (negated : Bool) (values : List SqlValue) :
    ReadsCondition .primary (Term.written s name mode used (membershipTerms values))
      ((membershipSql s false (s.identifier name) negated values).render s.dialect mode used)
      (membershipCondition negated values) := by
  unfold membershipSql membershipTerms membershipCondition
  dsimp only
  generalize values.filter (fun v => !v.isNull) = known
  -- The four forms: without values, with NULL alone, with known values alone, and with both.
  match known, values.any SqlValue.isNull with
  | [], false =>
    have hread := ReadsCondition.atom (.intro ("1", Term.number 1)
      (.equals (!negated) ("1", .number 1)))
    have hoperands : Term.written s name mode used (listTerms [] false)
        = [("1", .number 1), ("1", .number 1)] := by
      simp [listTerms, Term.written, Term.sql]
      rfl
    rw [hoperands]
    cases negated with
    | false => simpa [listCondition] using hread
    | true => simpa [listCondition] using hread
  | [], true =>
    have hread := ReadsCondition.atom (readsPredicate_nullTest s name negated)
    rw [listTerms, Term.written_column]
    simpa [Term.written, listCondition] using hread
  | v :: vs, false =>
    exact ReadsCondition.atom (readsPredicate_listSql s mode used name negated v vs)
  | v :: vs, true =>
    have hread := ReadsCondition.joined (if negated then .and else .or)
      (readsPredicate_listSql s mode used name negated v vs)
      (readsPredicate_nullTest s name negated)
    rw [listTerms, Term.written_append_column]
    simpa [Sql.render_append, String.append_assoc, listCondition] using hread

/-- The operands bind what the test binds. -/
theorem boundIn_membershipSql (negated : Bool) (values : List SqlValue) :
    ((membershipTerms values).map (Term.sql s name)).flatMap (Sql.boundIn mode)
      = (membershipSql s false (s.identifier name) negated values).boundIn mode := by
  have hlist : ∀ known, (listSql s false (s.identifier name) negated known).boundIn mode
      = ((known.map Term.value).map (Term.sql s name)).flatMap (Sql.boundIn mode) := by
    intro known
    show Sql.boundIn mode (Sql.ofText (s.identifier name) ++
      Sql.ofText (listOperator negated).sql ++
        (Sql.joinWith "," (known.map (s.value false))).parenthesized) = _
    rw [List.map_map]
    simp only [Sql.boundIn_append, Sql.boundIn_ofText, Sql.boundIn_parenthesized,
      Sql.boundIn_joinWith, List.nil_append]
    rfl
  unfold membershipSql membershipTerms
  dsimp only
  generalize values.filter (fun v => !v.isNull) = known
  -- One case for each of the four forms; the column binds nothing in any of them.
  match known, values.any SqlValue.isNull with
  | [], false => simp [listTerms, Term.sql]
  | [], true => simp [listTerms]
  | v :: vs, false =>
    rw [listTerms, List.map_cons, List.flatMap_cons, Term.boundIn_sql_column, List.nil_append]
    exact (hlist (v :: vs)).symm
  | v :: vs, true =>
    rw [listTerms, List.map_append, List.map_cons, List.flatMap_append, List.flatMap_cons,
      Term.boundIn_sql_column, List.nil_append, ← hlist (v :: vs)]
    simp

/-! ### What it says -/

section

variable {V : Type} (db : Comparing V) {known : List SqlValue}

/-- A value that is not NULL has a value in the database. -/
theorem eval_value {v : SqlValue} (hnull : v.isNull = false) (c : Option V) :
    Term.eval db c (.value v) = some (db.ofValue v) := by
  rw [Term.eval, hnull]
  rfl

/-- A known value is among others that are known, or it is not. -/
theorem isAmong_some (hknown : ∀ v ∈ known, v.isNull = false) (x : V) (c : Option V) :
    isAmong db.same (some x) ((known.map Term.value).map (Term.eval db c))
      = Truth.ofBool (known.any fun v => db.same x (db.ofValue v)) := by
  induction known with
  | nil => rfl
  | cons v vs ih =>
    obtain ⟨hv, hvs⟩ := List.forall_mem_cons.mp hknown
    rw [List.map_cons, List.map_cons, isAmong, ih hvs, eval_value db hv, List.any_cons]
    show (Truth.ofBool (db.same x (db.ofValue v))).or _ = _
    cases db.same x (db.ofValue v) <;> cases vs.any _ <;> rfl

/-- Nothing is in a list without values, and NULL is not either. -/
theorem value_listCondition_nil (negated : Bool) (c : Option V) :
    (listCondition negated [] false).value db.same (Term.eval db c)
      = Truth.false.negateIf negated := by
  rw [listCondition, Condition.value_atom, Predicate.value]
  show (Truth.ofBool (db.same (db.ofNumber 1) (db.ofNumber 1))).negateIf (!negated) = _
  rw [db.same_self]
  cases negated <;> rfl

/-- For a known value, the condition tells whether it is in the list. -/
theorem value_listCondition_some (hknown : ∀ v ∈ known, v.isNull = false) (negated hasNull : Bool)
    (x : V) :
    (listCondition negated known hasNull).value db.same (Term.eval db (some x))
      = (Truth.ofBool (known.any fun v => db.same x (db.ofValue v))).negateIf negated := by
  match known, hasNull with
  | [], false => exact value_listCondition_nil db negated _
  | [], true => cases negated <;> rfl
  | v :: vs, false =>
    rw [listCondition, Condition.value_atom, Predicate.value, ← isAmong_some db hknown x (some x)]
    rfl
  | v :: vs, true =>
    rw [listCondition, Condition.value_joined, Predicate.value, ← isAmong_some db hknown x (some x)]
    show Conjunction.combine _ (Truth.negateIf negated (isAmong db.same (some x) _))
      (Truth.negateIf negated .false) = _
    -- A known value is not NULL.
    generalize isAmong db.same (some x) _ = among
    cases negated <;> cases among <;> rfl

/-- For NULL, it tells whether NULL was in the list, and is unknown for a list without it. -/
theorem value_listCondition_none (known : List SqlValue) (negated hasNull : Bool) :
    (listCondition negated known hasNull).value db.same (Term.eval db none)
      = (if hasNull then Truth.true else if known.isEmpty then .false else .unknown).negateIf
          negated := by
  match known, hasNull with
  | [], false => exact value_listCondition_nil db negated _
  | [], true => cases negated <;> rfl
  | v :: vs, false =>
    rw [listCondition, Condition.value_atom, Predicate.value]
    show Truth.negateIf negated (isAmong db.same none (_ :: _)) = _
    rw [isAmong_none]
    rfl
  | v :: vs, true =>
    -- The test for NULL decides: `IN` has it beside OR, and `NOT IN` its opposite beside AND.
    rw [listCondition, Condition.value_joined, Predicate.value]
    show Conjunction.combine _ (Truth.negateIf negated (isAmong db.same none (_ :: _)))
      (Truth.negateIf negated .true) = _
    rw [isAmong_none]
    cases negated <;> rfl

/-- Whether a known value is in a list, and whether it is in none of its places. -/
theorem value_membershipCondition_some (values : List SqlValue) (x : V) :
    ((membershipCondition false values).value db.same (Term.eval db (some x)) = .true ↔
      ∃ v ∈ values, v.isNull = false ∧ db.same x (db.ofValue v) = true) ∧
    ((membershipCondition true values).value db.same (Term.eval db (some x)) = .true ↔
      ∀ v ∈ values, v.isNull = false → db.same x (db.ofValue v) = false) := by
  have hknown : ∀ v ∈ values.filter (fun v => !v.isNull), v.isNull = false := by
    intro v hv
    simpa using (List.mem_filter.mp hv).2
  unfold membershipCondition
  rw [value_listCondition_some db hknown, value_listCondition_some db hknown,
    Truth.negateIf_ofBool_eq_true_iff, Truth.negateIf_ofBool_eq_true_iff]
  constructor
  · simp
  · simp

/-- A list is one with NULL exactly if NULL is an item of it. -/
theorem any_isNull_eq_true_iff {values : List SqlValue} :
    values.any SqlValue.isNull = true ↔ .null ∈ values := by
  rw [List.any_eq_true]
  constructor
  · rintro ⟨v, hv, hnull⟩
    cases v with
    | null => exact hv
    | _ => cases hnull
  · exact fun h => ⟨.null, h, rfl⟩

/-- Whether NULL is in a list, and whether a list has nothing in it. -/
theorem value_membershipCondition_none (values : List SqlValue) :
    ((membershipCondition false values).value db.same (Term.eval db none) = .true ↔
      .null ∈ values) ∧
    ((membershipCondition true values).value db.same (Term.eval db none) = .true ↔
      values = []) := by
  have hempty : values = [] ↔ values.any SqlValue.isNull = false ∧
      (values.filter fun v => !v.isNull).isEmpty = true := by
    cases values with
    | nil => simp
    | cons v vs => cases hv : v.isNull <;> simp [hv]
  rw [hempty, ← any_isNull_eq_true_iff]
  unfold membershipCondition
  rw [value_listCondition_none, value_listCondition_none]
  -- For NULL in the column, only whether there are items and whether there is a NULL counts.
  generalize values.any SqlValue.isNull = hasNull
  generalize (values.filter fun v => !v.isNull).isEmpty = empty
  constructor
  · cases hasNull <;> cases empty <;> decide
  · cases hasNull <;> cases empty <;> decide

end

end Test

namespace Criterion

/-- What was built from a list is the test for this list. -/
theorem eq_of_compare_list {column : String} {values : List SqlValue} {negated : Bool}
    {c : Criterion} (h : compare column (Test.listOperator negated)
      (some (.value (.array values))) false = .ok c) :
    c = comparison ⟨column, .membership negated values, false⟩ := by
  have htest : Test.ofOperator (Test.listOperator negated) (some (.value (.array values)))
      = Test.ofMembership negated (some (.value (.array values))) := by
    cases negated <;> rfl
  unfold compare at h
  rw [htest] at h
  split at h
  · -- A list that passes its check is kept as it is.
    rename_i test hok
    obtain ⟨_, hvalues, rfl, -⟩ := Test.of_ofMembership hok
    cases hvalues
    cases h
    rfl
  · cases h

/-- Tests for a list. The operands, written one after the other, bind what the test binds. The text
of the test has one reading by the texts of its operands, and it is one unit wherever it stands. For
a value that is not NULL, `IN` is true if the value is equal to one of the list that is not NULL,
and `NOT IN` if it is equal to none. For NULL, `IN` is true if there is NULL in the list, and
`NOT IN` if there is nothing in it. So no row passes both tests. -/
theorem membership_means {column : String} {values : List SqlValue} {test : Bool → Criterion}
    (htest : ∀ negated, compare column (Test.listOperator negated)
      (some (.value (.array values))) false = .ok (test negated)) :
    (∀ (negated : Bool) (w : Writer), w.ignoreCase = false → ∀ bound : List SqlValue,
      ∃ (texts : List String) (text : String) (bound' : List SqlValue),
        Id.run (((Test.membershipTerms values).mapM (Term.write w column)).run bound)
          = (texts, bound') ∧
        Id.run (((test negated).write w).run bound) = (text, bound') ∧
        ReadsAsUnit (texts.zip (Test.membershipTerms values)) text
          (Test.membershipCondition negated values) ∧
        ∀ c, ReadsCondition (.chain .or) (texts.zip (Test.membershipTerms values)) text c →
          c = Test.membershipCondition negated values) ∧
    ∀ {V : Type} (db : Comparing V),
      let isIn := fun c => (Test.membershipCondition false values).value db.same (Term.eval db c)
      let notIn := fun c => (Test.membershipCondition true values).value db.same (Term.eval db c)
      (∀ x, (isIn (some x) = .true ↔
          ∃ v ∈ values, v.isNull = false ∧ db.same x (db.ofValue v) = true) ∧
        (notIn (some x) = .true ↔
          ∀ v ∈ values, v.isNull = false → db.same x (db.ofValue v) = false)) ∧
      (isIn none = .true ↔ .null ∈ values) ∧ (notIn none = .true ↔ values = []) ∧
      ∀ c, ¬ (isIn c = .true ∧ notIn c = .true) := by
  constructor
  · intro negated w hignore bound
    rw [eq_of_compare_list (htest negated)]
    -- The operands and the test are both written behind `bound`, so their placeholders agree.
    have hoperands := (writesAll_mapM (Term.writes_write (w := w) column)
      (Test.membershipTerms values)).run bound
    have hread := Test.readsCondition_membershipSql w.toStyle w.mode bound.length column negated
      values
    rw [Term.written_eq_zip] at hread
    have hrun := (Comparison.writes_write (w := w) ⟨column, .membership negated values, false⟩).run
      bound
    have hsql : Comparison.sql w.toStyle ⟨column, .membership negated values, false⟩
        = Test.membershipSql w.toStyle false (w.identifier column) negated values := by
      show Test.membershipSql w.toStyle (false || w.ignoreCase) _ _ _ = _
      rw [hignore]
      rfl
    rw [hsql] at hrun
    rw [Test.boundIn_membershipSql w.toStyle w.mode column negated values] at hoperands
    exact ⟨_, _, _, hoperands, hrun, hread.asUnit, fun c hc => hc.unique (hread.of_primary _)⟩
  · intro V db isIn notIn
    have hsome := Test.value_membershipCondition_some db values
    have hnone := Test.value_membershipCondition_none db values
    refine ⟨hsome, hnone.1, hnone.2, fun c ⟨hin, hnotIn⟩ => ?_⟩
    cases c with
    | none =>
      have hnull := hnone.1.mp hin
      rw [hnone.2.mp hnotIn] at hnull
      cases hnull
    | some x =>
      obtain ⟨v, hv, hknown, hsame⟩ := (hsome x).1.mp hin
      rw [(hsome x).2.mp hnotIn v hv hknown] at hsame
      cases hsame

/-- Two numbers and NULL. -/
def mixedList : List SqlValue :=
  [.int 1, .null, .int 2]

/-- Numbers, compared as such. -/
def comparingNumbers : Comparing Int where
  ofValue
    | .int n => n.toInt
    | _ => 0
  ofNumber n := n
  same x y := x == y
  same_self n := beq_self_eq_true (n : Int)

/-- With NULL in a list, the test for NOT IN is true for what is neither in the list nor NULL. -/
theorem membership_means_mixedList :
    let notIn := fun c => (Test.membershipCondition true mixedList).value comparingNumbers.same
      (Term.eval comparingNumbers c)
    ∃ test : Bool → Criterion,
      (∀ negated, compare "t.a" (Test.listOperator negated) (some (.value (.array mixedList))) false
        = .ok (test negated)) ∧
      (Id.run (((test true).write postgresInline).run [])).1
        = "(t.a NOT IN (1,2) AND t.a IS NOT NULL)" ∧
      ReadsAsUnit [("t.a", .column), ("1", .value (.int 1)), ("2", .value (.int 2)),
        ("t.a", .column)] "(t.a NOT IN (1,2) AND t.a IS NOT NULL)"
        (Test.membershipCondition true mixedList) ∧
      notIn (some 3) = .true ∧ notIn (some 2) ≠ .true ∧ notIn none ≠ .true := by
  intro notIn
  have htest : ∀ negated, compare "t.a" (Test.listOperator negated)
      (some (.value (.array mixedList))) false
        = .ok (comparison ⟨"t.a", .membership negated mixedList, false⟩) := by
    intro negated
    cases negated <;> rfl
  obtain ⟨hwritten, hvalues⟩ := membership_means htest
  obtain ⟨texts, text, bound, hterms, hwrite, hread, -⟩ := hwritten true postgresInline rfl []
  have htexts : (Id.run (((Test.membershipTerms mixedList).mapM
      (Term.write postgresInline "t.a")).run [])).1 = ["t.a", "1", "2", "t.a"] := by
    decide +kernel
  have htext : (Id.run (((comparison ⟨"t.a", .membership true mixedList, false⟩).write
      postgresInline).run [])).1 = "(t.a NOT IN (1,2) AND t.a IS NOT NULL)" := by
    decide +kernel
  rw [hterms] at htexts
  rw [hwrite] at htext
  cases htexts
  cases htext
  obtain ⟨hsome, -, hnone, -⟩ := hvalues comparingNumbers
  refine ⟨_, htest, by rw [hwrite], hread, (hsome 3).2.mpr ?_, fun h => ?_, fun h => ?_⟩
  · decide +kernel
  · have hsame := (hsome 2).2.mp h (.int 2) (by simp [mixedList]) rfl
    exact absurd hsame (by decide +kernel)
  · exact List.cons_ne_nil _ _ (hnone.mp h)

end Criterion

end SqlSelect
