import SqlSelect.Proofs.Rendering.Fragments

/-!
# `SqlSelect.Proofs.Rendering.Writer`: writing a condition

`Criterion.write` threads the bound values through a condition, while `Criterion.sql` leaves them in
the text. `Writes` relates the two: from any bound values on, the writer leaves the text of some SQL
and puts the values of this SQL behind those that were bound. There is one lemma for each
function of the writer, and each cites those of the functions that it calls.

* `writes_value`: one value. Only here does the mode matter.
* `Test.writes_writeMembership`, `Test.writes_writePattern`, `Comparison.writes_write`: the
  comparisons.
* `Criterion.writes_write`: every criterion, by induction on the tree.
-/

set_option autoImplicit false

namespace SqlSelect

/-- Writing `x` leaves the text of `s` and binds its values, wherever it starts. -/
structure Writes (w : Writer) (x : Writing String) (s : Sql) : Prop where
  run : ∀ bound, Id.run (x.run bound)
    = (s.render w.dialect w.mode bound.length, bound ++ s.boundIn w.mode)

/-- Writing `x` leaves the texts of a list, one behind the other. -/
structure WritesAll (w : Writer) (x : Writing (List String)) (items : List Sql) : Prop where
  run : ∀ bound, Id.run (x.run bound)
    = (Sql.renderAll w.dialect w.mode bound.length items,
        bound ++ items.flatMap (Sql.boundIn w.mode))

variable {w : Writer}

/-- Text without values. -/
theorem writes_text (x : String) : Writes w (pure x) (Sql.ofText x) where
  run bound := by simp

/-- Text that is changed after it has been written. -/
theorem Writes.map {x : Writing String} {s t : Sql} (h : Writes w x s) (g : String → String)
    (htext : ∀ mode used, t.render w.dialect mode used = g (s.render w.dialect mode used))
    (hbound : ∀ mode, t.boundIn mode = s.boundIn mode) :
    Writes w (x >>= fun written => pure (g written)) t where
  run bound := by
    rw [htext, hbound]
    simp [h.run bound]

/-- Where there is nothing to write, nothing is written. -/
theorem writesAll_nil : WritesAll w (pure []) [] where
  run bound := by simp [Sql.renderAll]

/-- What is written first moves the numbers of the rest on. -/
theorem WritesAll.cons {x : Writing String} {y : Writing (List String)} {s : Sql}
    {items : List Sql} (hx : Writes w x s) (hy : WritesAll w y items) :
    WritesAll w (do let first ← x; let rest ← y; return first :: rest) (s :: items) where
  run bound := by
    have hrest := hy.run (bound ++ s.boundIn w.mode)
    simp only [List.length_append] at hrest
    simp [hx.run bound, hrest, Sql.renderAll]

/-- Things are written one behind the other. -/
theorem writesAll_mapM {α : Type} {f : α → Writing String} {g : α → Sql}
    (h : ∀ x, Writes w (f x) (g x)) (xs : List α) : WritesAll w (xs.mapM f) (xs.map g) := by
  induction xs with
  | nil => exact writesAll_nil
  | cons x xs ih =>
    rw [List.mapM_cons]
    exact WritesAll.cons (h x) ih

/-- The items of a list are put together after they have been written. -/
theorem WritesAll.join {x : Writing (List String)} {items : List Sql} {t : Sql}
    (h : WritesAll w x items) (separator : String) (g : String → String)
    (htext : ∀ mode used, t.render w.dialect mode used
      = g ((Sql.joinWith separator items).render w.dialect mode used))
    (hbound : ∀ mode, t.boundIn mode = (Sql.joinWith separator items).boundIn mode) :
    Writes w (x >>= fun parts => pure (g (String.intercalate separator parts))) t where
  run bound := by
    rw [htext, hbound, Sql.render_joinWith, Sql.boundIn_joinWith]
    simp [h.run bound]

/-! ### Values -/

/-- A value that is bound stands behind the others, under their number plus one. -/
theorem writes_value (v : SqlValue) : Writes w (w.value v) (w.toStyle.value false v) where
  run bound := by
    -- A value that cannot be bound is text in both modes.
    cases hv : v.isBindable <;> cases hm : w.mode <;>
      simp [Writer.value, Style.value, Sql.ofValue, hv, hm, Sql.render, Sql.boundIn, Sql.inline,
        Sql.withPlaceholders, Sql.params, Dialect.foldedText]

/-- The dialect ignores the case of a value when the value has been written. -/
theorem writes_foldedValue (fold : Bool) (v : SqlValue) :
    Writes w (w.value v >>= fun written => pure (w.dialect.foldedText fold written))
      (w.toStyle.value fold v) :=
  (writes_value v).map _ (fun mode used => Sql.render_ofValue w.dialect mode used fold v)
    (fun mode => Sql.boundIn_ofValue w.dialect mode fold v)

namespace Test

/-- Around its right side, a relation is text. -/
theorem render_relationSql (s : Style) (mode : RenderMode) (used : Nat) (fold : Bool)
    (column operator : String) (right : Sql) :
    (relationSql s fold column operator right).render s.dialect mode used
      = s.dialect.foldedText fold column ++ operator ++ right.render s.dialect mode used := by
  simp [relationSql, Style.expression, Sql.render_append, String.append_assoc]

/-- A relation binds what its right side binds. -/
theorem boundIn_relationSql (s : Style) (mode : RenderMode) (fold : Bool)
    (column operator : String) (right : Sql) :
    (relationSql s fold column operator right).boundIn mode = right.boundIn mode := by
  simp [relationSql, Style.expression]

/-- A written value becomes the right side of a relation. -/
theorem writes_relation (fold : Bool) (column operator : String) (v : SqlValue) :
    Writes w
      (w.value v >>= fun written => pure (relationText w.dialect fold column operator written))
      (relationSql w.toStyle fold column operator (w.toStyle.value fold v)) := by
  have hright := (writes_foldedValue (w := w) fold v).map
    (fun written => w.dialect.foldedText fold column ++ operator ++ written)
    (fun mode used => render_relationSql w.toStyle mode used fold column operator _)
    (fun mode => boundIn_relationSql w.toStyle mode fold column operator _)
  -- Ignoring case and putting the rest in front are one step of the writer.
  simp only [bind_assoc, pure_bind] at hright
  exact hright

/-- A comparison with a value is written as its SQL. -/
theorem writes_writeValue (ignoreCase : Bool) (column : String) (r : Relation) (v : SqlValue) :
    Writes w (writeValue w ignoreCase column r v) (valueSql w.toStyle ignoreCase column r v) :=
  writes_relation (ignoreCase && v.isText) column r.sql v

/-- A comparison of two columns is text. -/
theorem writes_columns (fold : Bool) (column operator other : String) :
    Writes w (pure (relationText w.dialect fold column operator other))
      (relationSql w.toStyle fold column operator (w.toStyle.expression fold other)) where
  run bound := by
    simp [render_relationSql, boundIn_relationSql, relationText, Style.expression]

/-- A pattern is written as its SQL, whichever operator it is compared by. -/
theorem writes_writePattern (ignoreCase : Bool) (column : String) (negated : Bool)
    (pattern : String) :
    Writes w (writePattern w ignoreCase column negated pattern)
      (patternSql w.toStyle ignoreCase column negated pattern) := by
  unfold writePattern patternSql
  cases hp : (LikePattern.ofText pattern).hasWildcard with
  | false =>
    simp only [hp, Bool.not_false, if_true]
    exact writes_writeValue ignoreCase column (equality negated) _
  | true =>
    simp only [hp, Bool.not_true, Bool.false_eq_true, if_false]
    -- Both sides choose the operator in the same way, so the choice is fixed first.
    cases ignoreCase with
    | false => exact writes_relation false column _ _
    | true =>
      cases w.dialect.caseInsensitiveLike negated with
      | none => exact writes_relation true column _ _
      | some native => exact writes_relation false column native _

/-- The items of a list, each with its letter case ignored or not. -/
theorem writesAll_items (fold : SqlValue → Bool) (values : List SqlValue) :
    WritesAll w
      (values.mapM fun v =>
        w.value v >>= fun written => pure (w.dialect.foldedText (fold v) written))
      (values.map fun v => w.toStyle.value (fold v) v) :=
  writesAll_mapM (fun v => writes_foldedValue (fold v) v) values

/-- A list is written as its SQL, the column in front of it and the items between parentheses. -/
theorem writes_writeList (ignoreCase : Bool) (column : String) (negated : Bool)
    (values : List SqlValue) :
    Writes w (writeList w ignoreCase column negated values)
      (listSql w.toStyle ignoreCase column negated values) := by
  unfold writeList listSql
  refine (writesAll_items _ values).join ","
    (fun items => w.dialect.foldedText _ column ++ _ ++ "(" ++ items ++ ")") ?_ ?_
  · intro mode used
    simp [render_relationSql, String.append_assoc]
  · intro mode
    simp [boundIn_relationSql]

/-- The test for NULL stands beside the list and binds nothing. -/
theorem writes_writeMembership (ignoreCase : Bool) (column : String) (negated : Bool)
    (values : List SqlValue) :
    Writes w (writeMembership w ignoreCase column negated values)
      (membershipSql w.toStyle ignoreCase column negated values) := by
  unfold writeMembership membershipSql
  cases hempty : (values.filter fun v => !v.isNull).isEmpty with
  | true =>
    simp only [hempty, if_true]
    cases values.any SqlValue.isNull with
    | false => exact writes_text _
    | true => exact writes_text _
  | false =>
    simp only [hempty, Bool.false_eq_true, if_false]
    -- What is left of the list is written, with the test for NULL behind it if there was a NULL.
    have hlist := writes_writeList (w := w) ignoreCase column negated
      (values.filter fun v => !v.isNull)
    cases values.any SqlValue.isNull with
    | false => exact hlist.map id (fun _ _ => rfl) (fun _ => rfl)
    | true =>
      refine hlist.map (fun list => "(" ++ list ++ Conjunction.sql _ ++
        (column ++ nullTestSql negated) ++ ")") ?_ ?_
      · intro mode used
        simp [Sql.render_append, String.append_assoc]
      · intro mode
        simp

end Test

/-- A value is compared as it is unless the relation matches patterns. -/
theorem Comparison.sql_of_isPattern_eq_false {r : Relation} (hr : r.isPattern = false) (s : Style)
    (column : String) (v : SqlValue) (ignoreCase : Bool) :
    sql s ⟨column, .relation r (.value v), ignoreCase⟩
      = Test.valueSql s (ignoreCase || s.ignoreCase) (s.identifier column) r v := by
  cases r with
  | like | notLike => cases hr
  | _ => simp only [sql]

/-- A comparison is written by the function of its test. -/
theorem Comparison.writes_write (c : Comparison) : Writes w (c.write w) (c.sql w.toStyle) := by
  obtain ⟨column, test, ignoreCase⟩ := c
  cases test with
  | nullness negated => exact writes_text _
  | raw sql => exact writes_text _
  | membership negated values => exact Test.writes_writeMembership _ _ negated values
  | relation r right =>
    cases right with
    | column other => exact Test.writes_columns _ _ _ _
    | value v =>
      cases r with
      | like =>
        cases v with
        | string pattern => exact Test.writes_writePattern _ _ false pattern
        | _ => exact Test.writes_writeValue _ _ _ _
      | notLike =>
        cases v with
        | string pattern => exact Test.writes_writePattern _ _ true pattern
        | _ => exact Test.writes_writeValue _ _ _ _
      | _ =>
        -- Only patterns are written in a way of their own.
        simp only [write, sql]
        exact Test.writes_writeValue _ _ _ _

namespace Criterion

/-- A group of several criteria, with parentheses or without. -/
theorem writes_group {x : Writing (List String)} {items : List Sql} (h : WritesAll w x items)
    (parent : Option Conjunction) (conjunction : Conjunction) :
    Writes w
      (x >>= fun parts =>
        let condition := String.intercalate conjunction.sql parts
        pure (match parent with
          | some outer => if outer = conjunction then condition else "(" ++ condition ++ ")"
          | none => condition))
      (match parent with
        | some outer =>
          if outer = conjunction then Sql.joinWith conjunction.sql items
          else (Sql.joinWith conjunction.sql items).parenthesized
        | none => Sql.joinWith conjunction.sql items) := by
  cases parent with
  | none => exact h.join _ id (fun _ _ => rfl) (fun _ => rfl)
  | some outer =>
    -- Parentheses only inside a group of the other conjunction.
    by_cases hsame : outer = conjunction
    · simp only [hsame, if_true]
      exact h.join _ id (fun _ _ => rfl) (fun _ => rfl)
    · simp only [hsame, if_false]
      exact h.join _ (fun condition => "(" ++ condition ++ ")")
        (fun mode used => Sql.render_parenthesized w.dialect mode used _)
        (fun mode => Sql.boundIn_parenthesized mode _)

mutual

/-- The writer and the SQL of a criterion take the same way through the tree. -/
theorem writes_writeWithin (parent : Option Conjunction) : (c : Criterion) →
    Writes w (c.writeWithin w parent) (c.sqlWithin w.toStyle parent)
  | comparison c => by
    rw [writeWithin, sqlWithin]
    exact c.writes_write
  | group conjunction [] => by
    simp only [writeWithin, sqlWithin]
    exact writes_group (writesAll_writeAll conjunction []) parent conjunction
  | group _ [only] => by
    rw [writeWithin, sqlWithin]
    exact writes_writeWithin parent only
  | group conjunction (first :: second :: rest) => by
    simp only [writeWithin, sqlWithin]
    exact writes_group (writesAll_writeAll conjunction (first :: second :: rest)) parent conjunction

/-- The criteria of a group are written one behind the other. -/
theorem writesAll_writeAll (parent : Conjunction) : (children : List Criterion) →
    WritesAll w (writeAll w parent children) (sqlOfAll w.toStyle parent children)
  | [] => by
    rw [writeAll, sqlOfAll]
    exact writesAll_nil
  | child :: children => by
    rw [writeAll, sqlOfAll]
    exact WritesAll.cons (writes_writeWithin (some parent) child)
      (writesAll_writeAll parent children)

end

/-- Writing a criterion leaves its SQL. -/
theorem writes_write (c : Criterion) : Writes w (c.write w) (c.sql w.toStyle) :=
  writes_writeWithin none c

end Criterion

end SqlSelect
