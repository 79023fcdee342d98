import SqlSelect.Proofs.Building.Operands

/-!
# `SqlSelect.Proofs.Rendering.Guarded`: writing with a look at every operand

`Criterion.write` writes a condition from its tests, which leave no room for an operator without
its operand. The guarded writer below goes by the operator and the right side of a comparison
instead, in any combination of the two, and fails where there is nothing sensible to write: behind
an operator with no right side, for a raw condition that is no text, and for a value that has no
literal.

* `Comparison.writeGuarded_eq`: a comparison that is checked is written, and as `Comparison.write`
  does.
* `Criterion.writeGuarded_of_built`: which comparisons there are, and that a criterion that can be
  built is written without a failure, in either mode.
-/

set_option autoImplicit false

namespace SqlSelect

/-! ### The guarded writer -/

/-- Why a condition is not written. -/
inductive WritingFault where
  /-- There is no right side behind the operator. -/
  | missingOperand (op : Operator)
  /-- The value of a raw condition is no text. -/
  | noSqlText (v : SqlValue)
  /-- The value is NULL, a list, or a floating-point number that is not finite. -/
  | unwritable (v : SqlValue)

/-- A part of a statement that is being written, unless there is nothing sensible to write. -/
abbrev GuardedWriting := StateT (List SqlValue) (Except WritingFault)

instance : MonadLift Writing GuardedWriting where
  monadLift x := StateT.mk fun bound => .ok (Id.run (x.run bound))

instance : LawfulMonadLift Writing GuardedWriting where
  monadLift_pure _ := rfl
  monadLift_bind _ _ := rfl

/-- Writes a value that has a literal. -/
def Writer.guardedValue (w : Writer) (v : SqlValue) : GuardedWriting String :=
  if v.isScalar && !v.isNull then w.value v else throw (.unwritable v)

namespace Test

/-- Writes a comparison with a value. -/
def guardedValue (w : Writer) (ignoreCase : Bool) (column operator : String) (v : SqlValue) :
    GuardedWriting String := do
  let written ← w.guardedValue v
  return relationText w.dialect (ignoreCase && v.isText) column operator written

/-- Writes a comparison with a pattern. -/
def guardedPattern (w : Writer) (ignoreCase : Bool) (column : String) (negated : Bool)
    (pattern : String) : GuardedWriting String :=
  let p := LikePattern.ofText pattern
  if !p.hasWildcard then
    guardedValue w ignoreCase column (equality negated).sql (.string (String.ofList p.literal))
  else do
    let right ← w.guardedValue (.string (String.ofList p.pattern))
    return match ignoreCase, w.dialect.caseInsensitiveLike negated with
      | true, some native => relationText w.dialect false column native right
      | fold, _ => relationText w.dialect fold column (likeness negated).sql right

/-- Writes a list of values with the test for it. -/
def guardedList (w : Writer) (ignoreCase : Bool) (column : String) (negated : Bool)
    (values : List SqlValue) : GuardedWriting String := do
  let fold := ignoreCase && values.any SqlValue.isText
  let items ← values.mapM fun v => do
    let written ← w.guardedValue v
    return w.dialect.foldedText (fold && v.isText) written
  return w.dialect.foldedText fold column ++ (listOperator negated).sql ++
    "(" ++ String.intercalate "," items ++ ")"

/-- Writes the test whether a column is in a list. -/
def guardedMembership (w : Writer) (ignoreCase : Bool) (column : String) (negated : Bool)
    (values : List SqlValue) : GuardedWriting String :=
  let known := values.filter fun v => !v.isNull
  let hasNull := values.any SqlValue.isNull
  let nullTest := column ++ nullTestSql negated
  if known.isEmpty then
    return if hasNull then nullTest else if negated then "1=1" else "1<>1"
  else do
    let list ← guardedList w ignoreCase column negated known
    let conjunction : Conjunction := if negated then .and else .or
    return if hasNull then "(" ++ list ++ conjunction.sql ++ nullTest ++ ")" else list

end Test

/-- Writes a comparison by its operator and its right side. The cases stand in the order in which
they are looked at. -/
def Comparison.writeGuarded (w : Writer) (c : Comparison) : GuardedWriting String :=
  let ignoreCase := c.ignoreCase || w.ignoreCase
  let column := w.identifier c.column
  match c.operator, c.right? with
  | .isNull, _ => return column ++ nullTestSql false
  | .isNotNull, _ => return column ++ nullTestSql true
  | .custom, some (.value v) =>
    match v.asText? with
    | some sql => return sql
    | none => throw (.noSqlText v)
  | .isIn, some (.value (.array values)) =>
    Test.guardedMembership w ignoreCase column false values
  | .notIn, some (.value (.array values)) =>
    Test.guardedMembership w ignoreCase column true values
  | .relation .like, some (.value (.string pattern)) =>
    Test.guardedPattern w ignoreCase column false pattern
  | .relation .notLike, some (.value (.string pattern)) =>
    Test.guardedPattern w ignoreCase column true pattern
  | operator, some (.column other) =>
    return Test.relationText w.dialect c.ignoreCase column operator.sql (w.identifier other)
  -- NULL and lists come here as well, and are refused as values.
  | operator, some (.value v) => Test.guardedValue w ignoreCase column operator.sql v
  | operator, none => throw (.missingOperand operator)

namespace Criterion

mutual

/-- Writes a criterion inside a group with the conjunction `parent`, or at the top. -/
def writeGuardedWithin (w : Writer) (parent : Option Conjunction) :
    Criterion → GuardedWriting String
  | comparison c => c.writeGuarded w
  | group _ [only] => writeGuardedWithin w parent only
  | group conjunction children => do
    let parts ← writeGuardedAll w conjunction children
    let condition := String.intercalate conjunction.sql parts
    return match parent with
      | some outer => if outer = conjunction then condition else "(" ++ condition ++ ")"
      | none => condition

/-- Writes the criteria of a group with the conjunction `parent`, one after the other. -/
def writeGuardedAll (w : Writer) (parent : Conjunction) :
    List Criterion → GuardedWriting (List String)
  | [] => return []
  | child :: children => do
    let first ← writeGuardedWithin w (some parent) child
    let rest ← writeGuardedAll w parent children
    return first :: rest

end

/-- Writes a criterion as a condition. -/
def writeGuarded (w : Writer) (c : Criterion) : GuardedWriting String :=
  c.writeGuardedWithin w none

end Criterion

/-! ### Checked operands -/

variable {w : Writer}

/-- A value that is no list, not NULL and has a literal is written as without the guard. -/
theorem Writer.guardedValue_eq {v : SqlValue} (hscalar : v.isScalar = true)
    (hnull : v.isNull = false) : w.guardedValue v = liftM (w.value v) := by
  rw [guardedValue, hscalar, hnull]
  rfl

namespace Test

variable (ignoreCase : Bool) (column : String)

/-- So is a comparison with such a value. -/
theorem guardedValue_eq (r : Relation) {v : SqlValue} (hscalar : v.isScalar = true)
    (hnull : v.isNull = false) :
    guardedValue w ignoreCase column r.sql v = liftM (writeValue w ignoreCase column r v) := by
  unfold guardedValue writeValue
  rw [w.guardedValue_eq hscalar hnull, liftM_bind]
  rfl

/-- A pattern is a text, whichever form it is written in. -/
theorem guardedPattern_eq (negated : Bool) (pattern : String) :
    guardedPattern w ignoreCase column negated pattern
      = liftM (writePattern w ignoreCase column negated pattern) := by
  unfold guardedPattern writePattern
  dsimp only
  split
  · exact guardedValue_eq ignoreCase column (equality negated) rfl rfl
  · rw [Writer.guardedValue_eq rfl rfl, liftM_bind]
    rfl

/-- The items of a list, each with its letter case folded or not. -/
theorem guardedItems_eq (fold : SqlValue → Bool) {values : List SqlValue}
    (hvalues : ∀ v ∈ values, v.isScalar = true ∧ v.isNull = false) :
    (values.mapM fun v =>
        w.guardedValue v >>= fun written => pure (w.dialect.foldedText (fold v) written))
      = (liftM (values.mapM fun v =>
          w.value v >>= fun written => pure (w.dialect.foldedText (fold v) written)) :
            GuardedWriting (List String)) := by
  induction values with
  | nil => rfl
  | cons v values ih =>
    obtain ⟨⟨hscalar, hnull⟩, hrest⟩ := List.forall_mem_cons.mp hvalues
    simp only [List.mapM_cons, ih hrest, w.guardedValue_eq hscalar hnull, liftM_bind, liftM_pure]

/-- And a list of such values. -/
theorem guardedList_eq (negated : Bool) {values : List SqlValue}
    (hvalues : ∀ v ∈ values, v.isScalar = true ∧ v.isNull = false) :
    guardedList w ignoreCase column negated values
      = liftM (writeList w ignoreCase column negated values) := by
  unfold guardedList writeList
  dsimp only
  rw [guardedItems_eq _ hvalues, liftM_bind]
  rfl

/-- NULL is taken out of the list, and what is left has literals. -/
theorem guardedMembership_eq (negated : Bool) {values : List SqlValue}
    (hvalues : values.all SqlValue.isScalar = true) :
    guardedMembership w ignoreCase column negated values
      = liftM (writeMembership w ignoreCase column negated values) := by
  have hknown : ∀ v ∈ values.filter (fun v => !v.isNull),
      v.isScalar = true ∧ v.isNull = false := by
    intro v hv
    obtain ⟨hmem, hnull⟩ := List.mem_filter.mp hv
    exact ⟨List.all_eq_true.mp hvalues v hmem, by simpa using hnull⟩
  unfold guardedMembership writeMembership
  dsimp only
  split
  · rfl
  · rw [guardedList_eq ignoreCase column negated hknown, liftM_bind]
    rfl

end Test

/-! ### Checked comparisons -/

/-- A relation between a column and a value that was taken. -/
theorem Comparison.writeGuarded_value {column : String} {r : Relation} {v : SqlValue}
    {ignoreCase : Bool} (h : r.takes v = true) (hnull : v.isNull = false) :
    writeGuarded w ⟨column, .relation r (.value v), ignoreCase⟩
      = liftM (write w ⟨column, .relation r (.value v), ignoreCase⟩) := by
  have hscalar : v.isScalar = true := by
    rw [r.takes_of_isNull_eq_false hnull] at h
    exact (Bool.and_eq_true_iff.mp h).1
  cases r with
  | like =>
    cases v with
    | string pattern => exact Test.guardedPattern_eq _ _ false pattern
    | _ => exact Test.guardedValue_eq _ _ .like hscalar hnull
  | notLike =>
    cases v with
    | string pattern => exact Test.guardedPattern_eq _ _ true pattern
    | _ => exact Test.guardedValue_eq _ _ .notLike hscalar hnull
  | _ =>
    -- Only patterns are written in a way of their own.
    simp only [writeGuarded, write, operator, right?]
    exact Test.guardedValue_eq _ _ _ hscalar hnull

/-- A comparison that is checked is written, and nothing is missing. -/
theorem Comparison.writeGuarded_eq {c : Comparison} (h : c.Checked) :
    c.writeGuarded w = liftM (c.write w) := by
  have hnull := h.right?_ne_null
  have htakes := h.takes
  obtain ⟨column, test, ignoreCase⟩ := c
  cases test with
  | nullness negated => cases negated <;> rfl
  | raw sql => rfl
  | membership negated values =>
    cases negated with
    | false => exact Test.guardedMembership_eq _ _ false htakes
    | true => exact Test.guardedMembership_eq _ _ true htakes
  | relation r right =>
    cases right with
    | column other => cases r <;> rfl
    | value v =>
      -- `takes` alone would let NULL through for `=` and `<>`.
      have hv : v.isNull = false := by
        cases v with
        | null => exact absurd rfl hnull
        | _ => rfl
      exact writeGuarded_value htakes hv

/-- A comparison with NULL, which cannot be built. -/
example : (Comparison.writeGuarded { dialect := Backend.postgres.dialect, mode := .inline }
    ⟨"t.a", .relation .lt (.value .null), false⟩).run [] = .error (.unwritable .null) :=
  rfl

namespace Criterion

mutual

/-- The guarded writer takes the way of the other one through the tree. -/
theorem writeGuardedWithin_eq (parent : Option Conjunction) : (c : Criterion) →
    (∀ x ∈ c.comparisons, x.Checked) →
      c.writeGuardedWithin w parent = liftM (c.writeWithin w parent)
  | comparison c, h => by
    rw [writeGuardedWithin, writeWithin]
    exact Comparison.writeGuarded_eq (h c (List.mem_singleton_self c))
  | group conjunction [], _ => by
    simp only [writeGuardedWithin, writeWithin, writeGuardedAll, writeAll]
    rfl
  | group _ [only], h => by
    rw [writeGuardedWithin, writeWithin]
    exact writeGuardedWithin_eq parent only fun x hx =>
      h x (mem_comparisonsOfAll.mpr ⟨only, List.mem_singleton_self only, hx⟩)
  | group conjunction (first :: second :: rest), h => by
    -- The guard sits at the comparisons, so a group passes it when its members do.
    simp only [writeGuardedWithin, writeWithin]
    rw [writeGuardedAll_eq conjunction (first :: second :: rest) h, liftM_bind]
    rfl

/-- The criteria of a group are written one behind the other. -/
theorem writeGuardedAll_eq (parent : Conjunction) : (children : List Criterion) →
    (∀ x ∈ comparisonsOfAll children, x.Checked) →
      writeGuardedAll w parent children = liftM (writeAll w parent children)
  | [], _ => by
    rw [writeGuardedAll, writeAll]
    rfl
  | child :: children, h => by
    obtain ⟨hchild, hchildren⟩ := List.forall_mem_append.mp h
    rw [writeGuardedAll, writeAll, writeGuardedWithin_eq (some parent) child hchild,
      writeGuardedAll_eq parent children hchildren, liftM_bind]
    simp only [liftM_bind]
    rfl

end

/-- The comparisons that there are, and that what is built from them is written. A comparison
without a right side is a test for NULL, a raw condition holds SQL text, no comparison holds NULL,
and its operator takes what it holds. So nothing is missing where a criterion is written, no matter
in which mode and behind which bound values. -/
theorem writeGuarded_of_built :
    (∀ (column : String) (op : Operator) (right : Option Operand) (ignoreCase : Bool),
      ((∃ c, compare column op right ignoreCase = .ok c) ↔ op.takes right = true) ∧
      ∀ c, compare column op right ignoreCase = .ok c → ∃ x : Comparison, c = comparison x ∧
        x.column = column ∧ x.ignoreCase = ignoreCase ∧
          (x.operator, x.right?) = op.kept right) ∧
    ∀ c : Criterion, c.Built → c.WellFormed ∧
      (∀ x ∈ c.comparisons,
        (x.right? = none ↔ x.operator = .isNull ∨ x.operator = .isNotNull) ∧
        (x.operator = .custom → ∃ sql, x.right? = some (.value (.verbatim sql))) ∧
        x.right? ≠ some (.value .null) ∧ x.operator.takes x.right? = true) ∧
      ∀ (w : Writer) (bound : List SqlValue),
        (c.writeGuarded w).run bound = .ok (Id.run ((c.write w).run bound)) := by
  constructor
  · exact fun column op right ignoreCase => ⟨exists_compare_iff, fun c hc => (of_compare hc).2⟩
  · intro c hbuilt
    refine ⟨hbuilt.wellFormed, fun x hx => ?_, fun w bound => ?_⟩
    · have hchecked := hbuilt.checked x hx
      exact ⟨x.right?_eq_none_iff, Comparison.exists_verbatim_of_custom, hchecked.right?_ne_null,
        hchecked.takes⟩
    · rw [writeGuarded, writeGuardedWithin_eq none c hbuilt.checked]
      rfl

/-- A test for NULL that was a comparison, and a list with NULL in it. -/
theorem writeGuarded_of_built_nullAndList :
    let w : Writer := { dialect := Backend.postgres.dialect, mode := .parameterized }
    ∃ a b, compare "t.a" (.relation .eq) (some (.value .null)) false = .ok a ∧
      compare "t.b" .notIn (some (.value (.array [.int 1, .null]))) false = .ok b ∧
      (a.and b).ignoreCase.Built ∧
      ((a.and b).ignoreCase.writeGuarded w).run [.int 7]
        = .ok ("t.a IS NULL AND (t.b NOT IN ($2) AND t.b IS NOT NULL)", [.int 7, .int 1]) := by
  intro w
  have ha : compare "t.a" (.relation .eq) (some (.value .null)) false
      = .ok (comparison ⟨"t.a", .nullness false, false⟩) := rfl
  have hb : compare "t.b" .notIn (some (.value (.array [.int 1, .null]))) false
      = .ok (comparison ⟨"t.b", .membership true [.int 1, .null], false⟩) := rfl
  have hbuilt := ((Built.comparison ha).and (Built.comparison hb)).ignoreCase
  refine ⟨_, _, ha, hb, hbuilt, ?_⟩
  rw [(writeGuarded_of_built.2 _ hbuilt).2.2 w [.int 7]]
  rfl

end Criterion

end SqlSelect
