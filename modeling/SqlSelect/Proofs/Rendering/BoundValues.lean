import SqlSelect.Proofs.Literals.Comparison
import SqlSelect.Proofs.Meaning.Trees

/-!
# `SqlSelect.Proofs.Rendering.BoundValues`: the values that criteria bind

What a statement with placeholders binds can be read off its criteria without writing them: the
values of the comparisons from left to right, through the joins, WHERE and HAVING. NULL, SQL text
and lists are left out, as they cannot be bound, and a pattern stands in the form of SQL.

* `Comparison.params_sql`: the values of one comparison.
* `Criteria.params_query`: the parameters of a query are the values of its criteria, none lost, none
  repeated and none out of order.
-/

set_option autoImplicit false

namespace SqlSelect

/-- The values that a test compares with, in the order of their places. A pattern gets the wildcards
of SQL, or is a plain text if it has none. -/
def Test.values : Test → List SqlValue
  | membership _ values => values
  | relation r (.value v) => [Operator.written (.relation r) v]
  | _ => []

/-- The values of a comparison that can be bound to parameters. -/
def Comparison.boundValues (c : Comparison) : List SqlValue :=
  c.test.values.filter SqlValue.isBindable

/-- The values of a criterion that can be bound to parameters, from left to right. -/
def Criterion.boundValues (c : Criterion) : List SqlValue :=
  c.comparisons.flatMap Comparison.boundValues

/-- The values of some criteria that can be bound to parameters: those of the joins, then those of
WHERE, then those of HAVING. -/
def Criteria.boundValues (k : Criteria) : List SqlValue :=
  k.conditions.flatMap Criterion.boundValues

/-! ### One comparison -/

namespace Test

variable (s : Style)

/-- A value is bound if it can be, whether its case is ignored or not. -/
theorem params_value (fold : Bool) (v : SqlValue) :
    (s.value fold v).params = [v].filter SqlValue.isBindable := by
  cases hv : v.isBindable <;> simp [Style.value, Sql.ofValue, hv, Sql.params]

/-- A relation binds what its right side binds. -/
theorem params_relationSql (fold : Bool) (column operator : String) (right : Sql) :
    (relationSql s fold column operator right).params = right.params :=
  boundIn_relationSql s .parameterized fold column operator right

/-- A comparison with a value binds the value. -/
theorem params_valueSql (ignoreCase : Bool) (column : String) (r : Relation) (v : SqlValue) :
    (valueSql s ignoreCase column r v).params = [v].filter SqlValue.isBindable :=
  (params_relationSql s _ column r.sql _).trans (params_value s _ v)

/-- A pattern binds one text: the pattern in the form of SQL, or what it is compared with where it
has no wildcards. -/
theorem params_patternSql (ignoreCase : Bool) (column : String) (negated : Bool)
    (pattern : String) :
    (patternSql s ignoreCase column negated pattern).params
      = [Operator.written (.relation (likeness negated)) (.string pattern)] := by
  rw [Operator.written_pattern]
  unfold patternSql
  cases hp : (LikePattern.ofText pattern).hasWildcard with
  | false =>
    simp only [hp, Bool.not_false, if_true, Bool.false_eq_true, if_false]
    exact params_valueSql s ignoreCase column (equality negated) _
  | true =>
    simp only [hp, Bool.not_true, Bool.false_eq_true, if_false, if_true]
    -- The operator is chosen by the dialect, and binds nothing.
    cases ignoreCase with
    | false => exact params_relationSql s _ _ _ _
    | true =>
      cases s.dialect.caseInsensitiveLike negated with
      | none => exact params_relationSql s _ _ _ _
      | some native => exact params_relationSql s _ _ _ _

/-- A list binds its items. -/
theorem params_listSql (ignoreCase : Bool) (column : String) (negated : Bool)
    (values : List SqlValue) :
    (listSql s ignoreCase column negated values).params
      = values.filter SqlValue.isBindable := by
  -- Folding wraps a placeholder and binds the same value.
  have hitems : ∀ fold : SqlValue → Bool,
      (Sql.joinWith "," (values.map fun v => s.value (fold v) v)).params
        = values.filter SqlValue.isBindable := by
    intro fold
    refine (Sql.boundIn_joinWith .parameterized "," _).trans ?_
    rw [List.flatMap_map]
    show values.flatMap (fun v => (s.value (fold v) v).params) = _
    simp only [params_value]
    induction values with
    | nil => rfl
    | cons v values ih => rw [List.flatMap_cons, ih, ← List.filter_append, List.singleton_append]
  refine (params_relationSql s _ _ _ _).trans ?_
  exact (Sql.boundIn_parenthesized .parameterized _).trans (hitems _)

/-- Taking NULL out of a list takes nothing out that could be bound. -/
theorem filter_isBindable_known (values : List SqlValue) :
    (values.filter fun v => !v.isNull).filter SqlValue.isBindable
      = values.filter SqlValue.isBindable := by
  rw [List.filter_filter]
  refine List.filter_congr fun v _ => ?_
  cases v <;> rfl

/-- The test for NULL beside a list binds nothing. -/
theorem params_membershipSql (ignoreCase : Bool) (column : String) (negated : Bool)
    (values : List SqlValue) :
    (membershipSql s ignoreCase column negated values).params
      = values.filter SqlValue.isBindable := by
  -- NULL is never bound, so leaving the NULLs out of the list loses no value.
  rw [← filter_isBindable_known]
  unfold membershipSql
  dsimp only
  generalize values.filter (fun v => !v.isNull) = known
  cases known with
  | nil => cases values.any SqlValue.isNull <;> rfl
  | cons v known =>
    have hlist := params_listSql s ignoreCase column negated (v :: known)
    cases values.any SqlValue.isNull with
    | false => exact hlist
    | true =>
      show (listSql s ignoreCase column negated (v :: known) ++ Sql.ofText _ ++
        Sql.ofText _).parenthesized.params = _
      simpa [Sql.parenthesized, Sql.ofText, Sql.params, Sql.params_append] using hlist

end Test

/-- A comparison binds the values of its test that can be bound. -/
theorem Comparison.params_sql (s : Style) (c : Comparison) : (c.sql s).params = c.boundValues := by
  obtain ⟨column, test, ignoreCase⟩ := c
  cases test with
  | nullness negated => rfl
  | raw sql => rfl
  | membership negated values => exact Test.params_membershipSql s _ _ negated values
  | relation r right =>
    cases right with
    | column other => exact Test.params_relationSql s _ _ _ _
    | value v =>
      cases hr : r.isPattern with
      | false =>
        rw [sql_of_isPattern_eq_false hr, Comparison.boundValues, Test.values,
          Operator.written_of_isPattern_eq_false hr]
        exact Test.params_valueSql s _ _ r v
      | true =>
        -- A pattern that is no text is compared as the value that it is.
        cases r with
        | like =>
          cases v with
          | string pattern => exact Test.params_patternSql s _ _ false pattern
          | _ => exact Test.params_valueSql s _ _ _ _
        | notLike =>
          cases v with
          | string pattern => exact Test.params_patternSql s _ _ true pattern
          | _ => exact Test.params_valueSql s _ _ _ _
        | _ => cases hr

/-! ### Conditions and statements -/

/-- A criterion binds the values of its comparisons. -/
theorem Criterion.params_sql (s : Style) (c : Criterion) : (c.sql s).params = c.boundValues := by
  refine (Criterion.boundIn_sqlWithin s .parameterized none c).trans ?_
  rw [atomValues, List.flatMap_map, Criterion.boundValues]
  exact congrArg (c.comparisons.flatMap ·) (funext (Comparison.params_sql s))

namespace Criteria

variable {k : Criteria}

/-- A clause with a condition binds the values of the condition, if there is one. -/
theorem params_condition (s : Style) (c : Option Criterion) :
    ((c.map (Criterion.sql s)).map Sql.params).getD []
      = c.toList.flatMap Criterion.boundValues := by
  cases c with
  | none => rfl
  | some c => simp [Criterion.params_sql]

/-- A join binds the values of its condition, if it has one. -/
theorem params_joinEntry {s : Style} {join : Join} {entry : Sql}
    (h : k.joinEntry s join = .ok entry) :
    entry.params = join.condition.toList.flatMap Criterion.boundValues := by
  obtain ⟨table, -, hentry⟩ := except_map_eq_ok_iff.mp h
  subst hentry
  cases hcondition : join.condition with
  | none => rfl
  | some c => simp [Sql.ofText, Sql.params, Criterion.params_sql]

/-- The joins bind the values of their conditions one after the other. -/
theorem flatMap_params_joins {s : Style} {joins : List Join} {entries : List Sql}
    (h : joins.mapM (k.joinEntry s) = .ok entries) :
    entries.flatMap Sql.params
      = (joins.filterMap Join.condition).flatMap Criterion.boundValues := by
  have hpairs := mapM_eq_ok_iff.mp h
  clear h
  induction hpairs with
  | nil => rfl
  | @cons join entry _ _ hfirst _ ih =>
    rw [List.flatMap_cons, ih, params_joinEntry hfirst]
    cases hcondition : join.condition with
    | none => simp [hcondition]
    | some c => simp [hcondition]

/-- A query binds the values of its criteria, in the order of their places. -/
theorem params_query {d : Dialect} {quote : Bool} {q : Query Sql} (h : k.query d quote = .ok q) :
    q.params = k.boundValues := by
  obtain ⟨-, hjoins, hfilter, hhaving⟩ := of_query h
  rw [Query.params, flatMap_params_joins hjoins, hfilter, hhaving, params_condition,
    params_condition, boundValues, conditions, List.flatMap_append, List.flatMap_append]

/-- What criteria bind can be bound. -/
theorem isBindable_of_mem_boundValues {v : SqlValue} (hv : v ∈ k.boundValues) :
    v.isBindable = true := by
  obtain ⟨c, -, hc⟩ := List.mem_flatMap.mp hv
  obtain ⟨comparison, -, hcomparison⟩ := List.mem_flatMap.mp hc
  exact (List.mem_filter.mp hcomparison).2

end Criteria

end SqlSelect
