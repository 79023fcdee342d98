import SqlSelect.Proofs.Building.Registration
import SqlSelect.Proofs.Literals.Comparison
import SqlSelect.Proofs.Meaning.Trees
import SqlSelect.Proofs.Rendering.Comparisons

/-!
# `SqlSelect.Proofs.Building.Operands`: the right sides that a comparison takes

A comparison is checked once, when it is built. `Operator.takes` says which right sides an operator
takes, and `Operator.kept` what is kept of the two: `=` and `<>` become tests for NULL where they
have NULL on their right side, and those have no right side. A comparison is `Checked` if its
operator takes its right side and both are what is kept of them.

* `Criterion.compare_cases`: which comparisons there are, and what they hold.
* `Criterion.Built.checked`: the comparisons of every criterion that can be built are checked.
-/

set_option autoImplicit false

namespace SqlSelect

/-- Whether the value is neither a list nor a floating-point number that is not finite. -/
def SqlValue.isScalar (v : SqlValue) : Bool :=
  !v.isArray && !v.isNonFinite

/-- Whether the relation takes a value on its right side. -/
def Relation.takes : Relation → SqlValue → Bool
  | like, v | notLike, v => v.isText || v.isVerbatim
  | eq, v | ne, v => v.isScalar
  | lt, v | le, v | gt, v | ge, v => v.isScalar && !v.isNull

/-- A pattern is a text or SQL text. -/
theorem Relation.takes_of_isNull_eq_false (r : Relation) {v : SqlValue} (h : v.isNull = false) :
    r.takes v = (v.isScalar && !(r.isPattern && !(v.isText || v.isVerbatim))) := by
  cases r with
  | like | notLike => cases v <;> simp [takes, isPattern, SqlValue.isScalar, SqlValue.isText,
      SqlValue.isVerbatim, SqlValue.isArray, SqlValue.isNonFinite]
  | _ => simp [takes, isPattern, h]

namespace Operator

/-- Whether the operator takes a right side. -/
def takes : Operator → Option Operand → Bool
  | isNull, none | isNotNull, none => true
  | isNull, some (.value v) | isNotNull, some (.value v) => v.isNull
  | isIn, some (.value (.array values)) | notIn, some (.value (.array values)) =>
    values.all SqlValue.isScalar
  | custom, some (.value v) => v.isText || v.isVerbatim
  | relation _, some (.column _) => true
  | relation r, some (.value v) => r.takes v
  | _, _ => false

/-- What is kept of an operator and its right side. -/
def kept : Operator → Option Operand → Operator × Option Operand
  | isNull, _ | relation .eq, some (.value .null) => (isNull, none)
  | isNotNull, _ | relation .ne, some (.value .null) => (isNotNull, none)
  | custom, some (.value (.string sql)) => (custom, some (.value (.verbatim sql)))
  | operator, right => (operator, right)

/-- What is kept is taken. -/
theorem takes_kept {op : Operator} {right : Option Operand} (h : op.takes right = true) :
    (op.kept right).1.takes (op.kept right).2 = true := by
  unfold kept
  -- A test for NULL needs no right side, and SQL text is taken for a raw condition.
  split <;> first | rfl | exact h

/-- What is kept stays as it is. -/
theorem kept_kept (op : Operator) (right : Option Operand) :
    (op.kept right).1.kept (op.kept right).2 = op.kept right := by
  by_cases hsame : op.kept right = (op, right)
  · rw [hsame, hsame]
  · -- What is changed becomes a test for NULL or SQL text, and these are kept.
    unfold kept at hsame ⊢
    split at hsame <;> first | rfl | exact absurd rfl hsame

/-- Nothing else is kept as SQL text. -/
theorem kept_fst_ne_custom {op : Operator} (h : op ≠ .custom) (right : Option Operand) :
    (op.kept right).1 ≠ .custom := by
  unfold kept
  split <;> first | exact h | exact nofun

/-- A value is not kept as a column. -/
theorem kept_snd_ne_column (op : Operator) (v : SqlValue) (name : String) :
    (op.kept (some (.value v))).2 ≠ some (.column name) := by
  unfold kept
  split <;> simp_all

end Operator

/-! ### Checks -/

namespace Test

/-- The operator and the right side of a test. -/
def parts (test : Test) : Operator × Option Operand :=
  (Comparison.operator ⟨"", test, false⟩, Comparison.right? ⟨"", test, false⟩)

/-- What comes of an operator and a right side: a test that keeps them, if the operator takes the
right side. -/
inductive Fits (op : Operator) (right : Option Operand) : Except OperandFault Test → Prop
  | ok {test : Test} (htakes : op.takes right = true) (hparts : test.parts = op.kept right) :
    Fits op right (.ok test)
  | error {fault : OperandFault} (htakes : op.takes right = false) : Fits op right (.error fault)

/-- A test for NULL takes no right side, or NULL itself. -/
theorem fits_ofNullness (negated : Bool) (right : Option Operand) :
    Fits (if negated then .isNotNull else .isNull) right (ofNullness negated right) := by
  match right with
  | none => cases negated <;> exact .ok rfl rfl
  | some (.column _) => cases negated <;> exact .error rfl
  | some (.value v) =>
    cases v with
    | null => cases negated <;> exact .ok rfl rfl
    | _ => cases negated <;> exact .error rfl

/-- A list is looked through twice, once for each fault. -/
theorem all_isScalar_eq (values : List SqlValue) :
    values.all SqlValue.isScalar
      = (!values.any SqlValue.isArray && !values.any SqlValue.isNonFinite) := by
  induction values with
  | nil => rfl
  | cons v values ih =>
    rw [List.all_cons, ih, List.any_cons, List.any_cons, SqlValue.isScalar]
    cases v.isArray <;> cases v.isNonFinite <;> simp

/-- A list is taken by the operators of membership exactly if each of its items is a single value
that a literal can stand for. -/
theorem takes_list (negated : Bool) (values : List SqlValue) :
    (listOperator negated).takes (some (.value (.array values)))
      = values.all SqlValue.isScalar := by
  cases negated <;> rfl

/-- What a list is refused for is what `Operator.takes` says, item by item. -/
theorem fits_list (negated : Bool) (values : List SqlValue) :
    Fits (listOperator negated) (some (.value (.array values)))
      (ofMembership negated (some (.value (.array values)))) := by
  -- The two checks are made one after the other, and `takes` asks for both at once.
  have htakes := (takes_list negated values).trans (all_isScalar_eq values)
  unfold ofMembership
  dsimp only
  split
  · rename_i harray
    exact .error (by rw [htakes, harray]; rfl)
  · rename_i harray
    split
    · rename_i hfinite
      exact .error (by rw [htakes, hfinite, Bool.not_true, Bool.and_false])
    · rename_i hfinite
      refine .ok (by simp [htakes, harray, hfinite]) ?_
      cases negated <;> rfl

/-- Membership is tested in a list and in nothing else. -/
theorem fits_ofMembership (negated : Bool) (right : Option Operand) :
    Fits (listOperator negated) right (ofMembership negated right) := by
  match right with
  | none => cases negated <;> exact .error rfl
  | some (.column _) => cases negated <;> exact .error rfl
  | some (.value v) =>
    cases v with
    | array values => exact fits_list negated values
    | _ => cases negated <;> exact .error rfl

/-- A raw condition has its text on the right side. -/
theorem fits_ofRaw (right : Option Operand) : Fits .custom right (ofRaw right) := by
  match right with
  | none => exact .error rfl
  | some (.column _) => exact .error rfl
  | some (.value v) =>
    cases v with
    | string sql | verbatim sql => exact .ok rfl rfl
    | _ => exact .error rfl

/-- Only NULL makes a relation something else. -/
theorem kept_relation {r : Relation} {v : SqlValue} (h : v.isNull = false) :
    Operator.kept (.relation r) (some (.value v)) = (.relation r, some (.value v)) := by
  cases v with
  | null => cases h
  | _ => cases r <;> rfl

/-- A relation takes a column, or a value that it can be asked of; equality with NULL becomes a test
for NULL. -/
theorem fits_ofRelation (r : Relation) (right : Option Operand) :
    Fits (.relation r) right (ofRelation r right) := by
  match right with
  | none => exact .error rfl
  | some (.column _) => cases r <;> exact .ok rfl rfl
  | some (.value v) =>
    cases hnull : v.isNull with
    | true =>
      cases v with
      | null => cases r <;> first | exact .ok rfl rfl | exact .error rfl
      | _ => cases hnull
    | false =>
      have htakes : Operator.takes (.relation r) (some (.value v)) = _ :=
        r.takes_of_isNull_eq_false hnull
      rw [SqlValue.isScalar] at htakes
      unfold ofRelation
      dsimp only
      rw [hnull]
      -- The faults are looked for in the order of the factors of `htakes`.
      cases harray : v.isArray with
      | true => exact .error (by simp [htakes, harray])
      | false =>
        cases hfinite : v.isNonFinite with
        | true => exact .error (by simp [htakes, hfinite])
        | false =>
          cases hpattern : r.isPattern && !(v.isText || v.isVerbatim) with
          | true => exact .error (by rw [htakes, hpattern, Bool.not_true, Bool.and_false])
          | false =>
            refine .ok ?_ (kept_relation hnull).symm
            rw [htakes, harray, hfinite, hpattern]
            rfl

/-- Every operator checks its right side the way `Operator.takes` says, and keeps of it what
`Operator.kept` says. This is the one place where the checks are gone through. -/
theorem fits_ofOperator (op : Operator) (right : Option Operand) :
    Fits op right (ofOperator op right) := by
  cases op with
  | isNull => exact fits_ofNullness false right
  | isNotNull => exact fits_ofNullness true right
  | isIn => exact fits_ofMembership false right
  | notIn => exact fits_ofMembership true right
  | custom => exact fits_ofRaw right
  | relation r => exact fits_ofRelation r right

end Test

/-! ### Comparisons -/

namespace Comparison

/-- Whether the operator of the comparison takes the right side, and both are what is kept of
them. -/
structure Checked (c : Comparison) : Prop where
  takes : c.operator.takes c.right? = true
  kept : c.operator.kept c.right? = (c.operator, c.right?)

/-- A comparison is checked if it is what was kept of an operator and a right side. -/
theorem Checked.of_kept {c : Comparison} {op : Operator} {right : Option Operand}
    (htakes : op.takes right = true) (hkept : (c.operator, c.right?) = op.kept right) :
    c.Checked := by
  obtain ⟨hoperator, hright⟩ := Prod.mk.inj hkept
  constructor
  · rw [hoperator, hright]
    exact Operator.takes_kept htakes
  · rw [hoperator, hright]
    exact Operator.kept_kept op right

/-- Only a test for NULL has no right side. -/
theorem right?_eq_none_iff (c : Comparison) :
    c.right? = none ↔ c.operator = .isNull ∨ c.operator = .isNotNull := by
  obtain ⟨column, test, ignoreCase⟩ := c
  cases test with
  | nullness negated => cases negated <;> simp [right?, operator]
  | membership negated values => cases negated <;> simp [right?, operator]
  | _ => simp [right?, operator]

/-- A raw condition is SQL text. -/
theorem exists_verbatim_of_custom {c : Comparison} (h : c.operator = .custom) :
    ∃ sql, c.right? = some (.value (.verbatim sql)) := by
  obtain ⟨sql, hsql⟩ := c.operator_eq_custom_iff.mp h
  exact ⟨sql, by rw [right?, hsql]⟩

/-- There is no NULL on the right side. -/
theorem Checked.right?_ne_null {c : Comparison} (h : c.Checked) :
    c.right? ≠ some (.value .null) := by
  intro hnull
  obtain ⟨htakes, hkept⟩ := h
  obtain ⟨column, test, ignoreCase⟩ := c
  cases test with
  | relation r right =>
    cases hnull
    -- `=` and `<>` would have become tests for NULL, and no other relation takes it.
    cases r with
    | eq | ne => cases congrArg Prod.fst hkept
    | _ => cases htakes
  | _ => cases hnull

end Comparison

namespace Criterion

variable {column : String} {op : Operator} {right : Option Operand} {ignoreCase : Bool}

/-- A comparison is there exactly if the operator takes the right side. It holds what is kept of the
two. -/
theorem compare_cases (column : String) (op : Operator) (right : Option Operand)
    (ignoreCase : Bool) :
    (op.takes right = true ∧ ∃ x : Comparison,
      compare column op right ignoreCase = .ok (comparison x) ∧ x.column = column ∧
        x.ignoreCase = ignoreCase ∧ (x.operator, x.right?) = op.kept right) ∨
    (op.takes right = false ∧ ∃ e, compare column op right ignoreCase = .error e) := by
  have hfits := Test.fits_ofOperator op right
  unfold compare
  generalize Test.ofOperator op right = result at hfits
  cases hfits with
  | ok htakes hparts => exact .inl ⟨htakes, _, rfl, rfl, rfl, hparts⟩
  | error htakes => exact .inr ⟨htakes, _, rfl⟩

/-- A comparison can be built exactly if its operator takes its right side. Neither the column nor
letter case plays a part. -/
theorem exists_compare_iff :
    (∃ c, compare column op right ignoreCase = .ok c) ↔ op.takes right = true := by
  rcases compare_cases column op right ignoreCase with ⟨htakes, x, hx, -⟩ | ⟨htakes, e, he⟩
  · exact iff_of_true ⟨_, hx⟩ htakes
  · rw [he, htakes]
    simp

/-- A comparison that was built holds the column and the flag it was given, and what is kept of the
operator and the right side. -/
theorem of_compare {c : Criterion} (h : compare column op right ignoreCase = .ok c) :
    op.takes right = true ∧ ∃ x : Comparison, c = comparison x ∧ x.column = column ∧
      x.ignoreCase = ignoreCase ∧ (x.operator, x.right?) = op.kept right := by
  rcases compare_cases column op right ignoreCase with ⟨htakes, x, hx, hkept⟩ | ⟨-, e, he⟩
  · rw [hx] at h
    cases h
    exact ⟨htakes, x, rfl, hkept⟩
  · rw [he] at h
    cases h

/-- The comparisons of many criteria are those of each one. -/
theorem mem_comparisonsOfAll {x : Comparison} {children : List Criterion} :
    x ∈ comparisonsOfAll children ↔ ∃ child ∈ children, x ∈ child.comparisons := by
  induction children with
  | nil => simp [comparisonsOfAll]
  | cons child children ih => simp [comparisonsOfAll, ih]

/-- Comparisons are checked when they are built, and no operation changes an operator or a right
side. -/
theorem Built.checked {c : Criterion} (h : c.Built) : ∀ x ∈ c.comparisons, x.Checked := by
  induction h with
  | comparison h =>
    obtain ⟨htakes, x, rfl, -, -, hkept⟩ := of_compare h
    intro y hy
    rw [comparisons, List.mem_singleton] at hy
    rw [hy]
    exact .of_kept htakes hkept
  | custom sql =>
    intro x hx
    rw [Criterion.custom, comparisons, List.mem_singleton] at hx
    rw [hx]
    exact ⟨rfl, rfl⟩
  | group h _ ih =>
    -- The operations on trees make no comparison and change none but in its flag, which no check
    -- looks at.
    intro x hx
    unfold ofList at h
    split at h <;> cases h
    rw [comparisons] at hx
    obtain ⟨child, hchild, hx⟩ := mem_comparisonsOfAll.mp hx
    exact ih child hchild x hx
  | and _ _ ihl ihr | or _ _ ihl ihr =>
    intro x hx
    rcases List.mem_append.mp ((comparisons_join _ _ _) ▸ hx) with hx | hx
    · exact ihl x hx
    · exact ihr x hx
  | ignoreCase _ ih =>
    intro x hx
    rw [ignoreCase_eq_mapComparisons, comparisons_mapComparisons] at hx
    obtain ⟨y, hy, rfl⟩ := List.mem_map.mp hx
    exact ⟨(ih y hy).takes, (ih y hy).kept⟩

end Criterion

end SqlSelect
