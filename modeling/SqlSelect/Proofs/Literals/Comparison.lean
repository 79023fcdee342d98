import SqlSelect.Proofs.Literals.Operand

/-!
# `SqlSelect.Proofs.Literals.Comparison`: comparisons with literals, as their product reads them

A comparison with values is a column, an operator and an operand. Written with literals, its operand
is read as the pieces of each value with a little code between them, and reading goes on behind it:
nothing of a text is taken for code. There is one exception, as a UUID is written without an escape.

* `Operator.shown`: the values that a comparison shows.
* `Operator.textsWithoutValue`: the texts of a comparison that shows none.
* `Operation`: a comparison cut around its operator.
* `Test.isOperation_of_ofOperator`: every comparison that passed its check is one, with the values
  that it shows.
* `Criterion.readsAs_operand`: its operand is read in that way exactly if its UUIDs are plain.
* `Criterion.uuid_readsAs_condition`: a UUID that is taken for a condition.
-/

set_option autoImplicit false

namespace SqlSelect

/-! ### What a comparison shows -/

/-- The values on the right side of a comparison. -/
def Operand.values : Operand → List SqlValue
  | column _ => []
  | value (.array values) => values
  | value v => [v]

namespace Operator

/-- A value in the form in which a comparison shows it. A pattern gets the wildcards of SQL, or is
a plain text if it has none. -/
def written : Operator → SqlValue → SqlValue
  | relation .like, .string s | relation .notLike, .string s =>
    let p := LikePattern.ofText s
    .string (String.ofList (if p.hasWildcard then p.pattern else p.literal))
  | _, v => v

/-- The values that a comparison shows, in the order of their places. NULL is none of them, as there
is a test of its own for it. -/
def shown (op : Operator) (right : Option Operand) : List SqlValue :=
  ((right.elim [] Operand.values).filter fun v => !v.isNull).map op.written

/-- The texts of a comparison that shows no value: it relates the column to another one, tests it
for NULL, or has a list without values on its right side. -/
def textsWithoutValue (w : Writer) (column : String) (ignoreCase : Bool) (op : Operator) :
    Option Operand → List String
  | some (.column other) =>
    [Test.relationText w.dialect ignoreCase (w.identifier column) op.sql (w.identifier other)]
  | _ =>
    [w.identifier column ++ nullTestSql false, w.identifier column ++ nullTestSql true,
      "1<>1", "1=1"]

/-- The texts of an operator. Patterns are also compared for equality, or by the operators that a
product has for them. -/
def spellings (d : Dialect) : Operator → List String
  | relation .like => [Relation.like.sql, Relation.eq.sql] ++ (d.caseInsensitiveLike false).toList
  | relation .notLike =>
    [Relation.notLike.sql, Relation.ne.sql] ++ (d.caseInsensitiveLike true).toList
  | op => [op.sql]

end Operator

/-- A comparison with values that is cut around its operator. -/
structure Operation where
  before : String
  operator : String
  operand : Sql
  behind : String

namespace Operation

/-- The whole text. -/
def text (d : Dialect) (o : Operation) : String :=
  o.before ++ o.operator ++ o.operand.inline d ++ o.behind

/-- Whether the parts are those of a column, an operator and some values. There may be a test for
NULL behind, and then there is a parenthesis in front. -/
structure Compares (b : Backend) (w : Writer) (column : String) (op : Operator)
    (values : List SqlValue) (o : Operation) : Prop where
  before : ∃ (parenthesis : String) (fold : Bool),
    o.before = parenthesis ++ w.dialect.foldedText fold (w.identifier column) ∧
      parenthesis ∈ ["", "("]
  operator : o.operator ∈ op.spellings b.dialect
  operand : o.operand.IsOperandOf b values
  behind : o.behind.toList.head? ≠ some '\''

end Operation

/-- Whether SQL text is a comparison of a column by an operator with some values. -/
def Sql.IsOperation (b : Backend) (w : Writer) (column : String) (op : Operator)
    (values : List SqlValue) (s : Sql) : Prop :=
  ∃ o : Operation, o.Compares b w column op values ∧ s.inline b.dialect = o.text b.dialect

namespace Test

/-- The relation that a pattern with wildcards is compared by. -/
def likeness (negated : Bool) : Relation :=
  if negated then .notLike else .like

/-- The operator of a test for a list. -/
def listOperator (negated : Bool) : Operator :=
  if negated then .notIn else .isIn

/-- The list in such a test. -/
def listOperand (style : Style) (ignoreCase : Bool) (values : List SqlValue) : Sql :=
  let fold := ignoreCase && values.any SqlValue.isText
  (Sql.joinWith "," (values.map fun v => style.value (fold && v.isText) v)).parenthesized

end Test

namespace Operator

/-- The common spelling of an operator is among its spellings. -/
theorem sql_mem_spellings (d : Dialect) (op : Operator) : op.sql ∈ op.spellings d := by
  cases op with
  | relation r => cases r <;> simp [spellings, sql]
  | _ => simp [spellings]

/-- A pattern is shown with the wildcards of SQL, or as a plain text. -/
theorem written_pattern (negated : Bool) (pattern : String) :
    written (relation (Test.likeness negated)) (.string pattern)
      = .string (String.ofList (if (LikePattern.ofText pattern).hasWildcard then
          (LikePattern.ofText pattern).pattern
        else (LikePattern.ofText pattern).literal)) := by
  cases negated <;> rfl

/-- Only patterns have a form of their own in SQL. -/
theorem written_of_isPattern_eq_false {r : Relation} (hr : r.isPattern = false) (v : SqlValue) :
    written (relation r) v = v := by
  cases r with
  | like | notLike => cases hr
  | _ => rfl

/-- Writing a value makes no UUID and unmakes none. -/
theorem written_eq_uuid_iff {op : Operator} {v : SqlValue} {u : String} :
    op.written v = .uuid u ↔ v = .uuid u := by
  unfold written
  split <;> simp

/-- A UUID is shown as it is. -/
theorem uuid_mem_shown_iff {op : Operator} {right : Option Operand} {u : String} :
    .uuid u ∈ op.shown right ↔ .uuid u ∈ right.elim [] Operand.values := by
  simp only [shown, List.mem_map, written_eq_uuid_iff, List.mem_filter]
  constructor
  · rintro ⟨v, ⟨hv, -⟩, rfl⟩
    exact hv
  · exact fun hv => ⟨_, ⟨hv, rfl⟩, rfl⟩

/-- A pattern without wildcards is compared by equality, so this is a spelling of its operator. -/
theorem equality_mem_spellings (d : Dialect) (negated : Bool) :
    (Test.equality negated).sql ∈ spellings d (relation (Test.likeness negated)) := by
  cases negated <;> simp [Test.equality, Test.likeness, spellings]

/-- A dialect's own operator for patterns is a spelling too. -/
theorem native_mem_spellings {d : Dialect} {negated : Bool} {native : String}
    (h : d.caseInsensitiveLike negated = some native) :
    native ∈ spellings d (relation (Test.likeness negated)) := by
  cases negated <;> simp [Test.likeness, spellings, h]

end Operator

namespace Test

variable {b : Backend} {w : Writer} {column : String} {op : Operator} {values : List SqlValue}

/-- SQL text that is an operation and nothing else. -/
theorem isOperation_of_inline {s operand : Sql} (hoperand : operand.IsOperandOf b values)
    {operator : String} (hoperator : operator ∈ op.spellings b.dialect) (fold : Bool)
    (hs : s.inline b.dialect
      = w.dialect.foldedText fold (w.identifier column) ++ operator ++
        operand.inline b.dialect) :
    s.IsOperation b w column op values := by
  refine ⟨⟨w.dialect.foldedText fold (w.identifier column), operator, operand, ""⟩, ?_, ?_⟩
  · exact ⟨⟨"", fold, String.empty_append.symm, by simp⟩, hoperator, hoperand, by simp⟩
  · rw [hs, Operation.text, String.append_empty]

/-- SQL text that is an operation between parentheses, with something behind it. -/
theorem isOperation_of_parenthesized {s operand : Sql} (hoperand : operand.IsOperandOf b values)
    {operator : String} (hoperator : operator ∈ op.spellings b.dialect) (fold : Bool)
    {behind : String} (hbehind : behind.toList.head? ≠ some '\'')
    (hs : s.inline b.dialect
      = "(" ++ (w.dialect.foldedText fold (w.identifier column) ++ operator ++
          operand.inline b.dialect) ++ behind) :
    s.IsOperation b w column op values := by
  refine ⟨⟨"(" ++ w.dialect.foldedText fold (w.identifier column), operator, operand, behind⟩,
    ?_, ?_⟩
  · exact ⟨⟨"(", fold, rfl, by simp⟩, hoperator, hoperand, hbehind⟩
  · rw [hs]
    simp only [Operation.text, String.append_assoc]

/-- A relation is its left side, its operator and its right side. -/
theorem inline_relationSql (d : Dialect) (style : Style) (fold : Bool)
    (column operator : String) (right : Sql) :
    (relationSql style fold column operator right).inline d
      = style.dialect.foldedText fold column ++ operator ++ right.inline d := by
  rw [relationSql, Style.expression, Sql.inline_append, Sql.inline_append, Sql.inline_ofText,
    Sql.inline_ofText]

/-- A relation to an operand is an operation. -/
theorem isOperation_relationSql {right : Sql} (hright : right.IsOperandOf b values)
    {operator : String} (hoperator : operator ∈ op.spellings b.dialect) (fold : Bool) :
    (relationSql w.toStyle fold (w.identifier column) operator right).IsOperation b w column op
      values :=
  isOperation_of_inline hright hoperator fold (inline_relationSql b.dialect w.toStyle fold _ _ _)

variable (hdialect : w.dialect = b.dialect)
include hdialect

/-- A value that can be bound is an operand. -/
theorem isOperandOf_value {v : SqlValue} (hv : v.isBindable = true) (fold : Bool) :
    (w.toStyle.value fold v).IsOperandOf b [v] := by
  show (Sql.ofValue w.dialect fold v).IsOperandOf b [v]
  rw [hdialect]
  exact Sql.IsOperandOf.ofValue hv fold

/-- A comparison with a value that can be bound is an operation. -/
theorem isOperation_valueSql {v : SqlValue} (hv : v.isBindable = true) {r : Relation}
    (hr : r.sql ∈ op.spellings b.dialect) (ignoreCase : Bool) :
    (valueSql w.toStyle ignoreCase (w.identifier column) r v).IsOperation b w column op [v] :=
  isOperation_relationSql (isOperandOf_value hdialect hv _) hr _

/-- A pattern is shown in the form of SQL, or as a plain text. -/
theorem isOperation_patternSql (ignoreCase negated : Bool) (pattern : String) :
    (patternSql w.toStyle ignoreCase (w.identifier column) negated pattern).IsOperation b w column
      (.relation (likeness negated))
      [Operator.written (.relation (likeness negated)) (.string pattern)] := by
  rw [Operator.written_pattern]
  unfold patternSql
  cases hp : (LikePattern.ofText pattern).hasWildcard with
  | false =>
    simp only [hp, Bool.not_false, if_true]
    exact isOperation_valueSql hdialect rfl (Operator.equality_mem_spellings _ negated) ignoreCase
  | true =>
    simp only [hp, Bool.not_true, Bool.false_eq_true, if_false, if_true]
    have htext : (SqlValue.string (String.ofList
        (LikePattern.ofText pattern).pattern)).isBindable = true := rfl
    have hright := isOperandOf_value hdialect htext
    have hlike := Operator.sql_mem_spellings b.dialect (.relation (likeness negated))
    -- Only where case is ignored a product's own operator is used, if it has one.
    cases ignoreCase with
    | false => exact isOperation_relationSql (hright false) hlike false
    | true =>
      cases hnative : w.dialect.caseInsensitiveLike negated with
      | none => exact isOperation_relationSql (hright true) hlike true
      | some native =>
        rw [hdialect] at hnative
        exact isOperation_relationSql (hright false) (Operator.native_mem_spellings hnative) false

omit hdialect in
/-- A list is written as an operation, too. -/
theorem inline_listSql (d : Dialect) (style : Style) (ignoreCase : Bool) (column : String)
    (negated : Bool) (values : List SqlValue) :
    (listSql style ignoreCase column negated values).inline d
      = style.dialect.foldedText (ignoreCase && values.any SqlValue.isText) column ++
        (listOperator negated).sql ++ (listOperand style ignoreCase values).inline d :=
  inline_relationSql d style _ column _ _

/-- A list of values that can be bound is an operand. -/
theorem isOperandOf_listOperand {values : List SqlValue}
    (hvalues : ∀ v ∈ values, v.isBindable = true) (ignoreCase : Bool) :
    (listOperand w.toStyle ignoreCase values).IsOperandOf b values := by
  unfold listOperand Style.value
  rw [hdialect]
  exact (Sql.IsOperandOf.items hvalues _).parenthesized

/-- The known values of a list stand between parentheses, and a test for NULL may stand behind. -/
theorem isOperation_membershipSql (ignoreCase negated : Bool) (values : List SqlValue)
    (hvalues : ∀ v ∈ values, v.isNull = false → v.isBindable = true)
    (hknown : (values.filter fun v => !v.isNull) ≠ []) :
    (membershipSql w.toStyle ignoreCase (w.identifier column) negated values).IsOperation b w column
      (listOperator negated) (values.filter fun v => !v.isNull) := by
  have hbindable : ∀ v ∈ values.filter fun v => !v.isNull, v.isBindable = true := by
    intro v hv
    obtain ⟨hmem, hnull⟩ := List.mem_filter.mp hv
    exact hvalues v hmem (by simpa using hnull)
  have hempty : (values.filter fun v => !v.isNull).isEmpty = false := by
    rwa [List.isEmpty_eq_false_iff]
  unfold membershipSql
  simp only [hempty, Bool.false_eq_true, if_false]
  generalize values.filter (fun v => !v.isNull) = known at hbindable
  have hlist := inline_listSql b.dialect w.toStyle ignoreCase (w.identifier column) negated known
  generalize (ignoreCase && known.any SqlValue.isText) = fold at hlist
  have hoperand := isOperandOf_listOperand hdialect hbindable ignoreCase
  have hoperator := Operator.sql_mem_spellings b.dialect (listOperator negated)
  -- Only with a NULL in the list is there anything behind the operand.
  cases values.any SqlValue.isNull with
  | false =>
    rw [if_neg Bool.false_ne_true]
    exact isOperation_of_inline hoperand hoperator fold hlist
  | true =>
    rw [if_pos rfl]
    have hbehind : ((if negated then Conjunction.and else Conjunction.or).sql ++
        (w.identifier column ++ nullTestSql negated) ++ ")").toList.head? ≠ some '\'' := by
      cases negated <;> simp [Conjunction.sql]
    refine isOperation_of_parenthesized hoperand hoperator fold hbehind ?_
    rw [← hlist, Sql.inline_parenthesized, Sql.inline_append, Sql.inline_append, Sql.inline_ofText,
      Sql.inline_ofText]
    simp only [String.append_assoc]

end Test

/-! ### Checked comparisons -/

/-- NULL, SQL text and lists are the only values that cannot be bound. -/
theorem SqlValue.isBindable_of {v : SqlValue} (hnull : v.isNull = false)
    (hverbatim : v.isVerbatim = false) (harray : v.isArray = false) : v.isBindable = true := by
  cases v with
  | null => cases hnull
  | verbatim _ => cases hverbatim
  | array _ => cases harray
  | _ => rfl

namespace Test

variable {op : Operator} {right : Option Operand} {test : Test}

/-- A relation to a value that passed its check. -/
theorem of_ofRelation {r : Relation} {v : SqlValue}
    (h : ofRelation r (some (.value v)) = .ok test) (hnull : v.isNull = false) :
    test = .relation r (.value v) ∧ v.isArray = false ∧
      (r.isPattern = true → v.isText = true ∨ v.isVerbatim = true) := by
  unfold ofRelation at h
  dsimp only at h
  split at h
  · cases h
  · rename_i harray
    -- The checks are left one after the other: for a list, for NULL, for a number, for a pattern.
    rw [hnull, if_neg Bool.false_ne_true] at h
    split at h
    · cases h
    · split at h
      · cases h
      · rename_i hpattern
        cases h
        refine ⟨rfl, by simpa using harray, fun hr => ?_⟩
        cases htext : v.isText with
        | true => exact .inl rfl
        | false => exact .inr (by simpa [hr, htext] using hpattern)

/-- NULL on the right side of a relation leaves a test for NULL. -/
theorem of_ofRelation_null {r : Relation} {v : SqlValue}
    (h : ofRelation r (some (.value v)) = .ok test) (hnull : v.isNull = true) :
    ∃ negated, test = .nullness negated := by
  cases v with
  | null =>
    cases r with
    | eq =>
      cases h
      exact ⟨false, rfl⟩
    | ne =>
      cases h
      exact ⟨true, rfl⟩
    | _ => cases h
  | _ => cases hnull

/-- A test for NULL that passed its check. -/
theorem of_ofNullness {negated : Bool} (h : ofNullness negated right = .ok test) :
    test = .nullness negated ∧ (right = none ∨ right = some (.value .null)) := by
  unfold ofNullness at h
  split at h
  · cases h
    exact ⟨rfl, .inl rfl⟩
  · cases h
    exact ⟨rfl, .inr rfl⟩
  · cases h

/-- A list that passed its check. -/
theorem of_ofMembership {negated : Bool} (h : ofMembership negated right = .ok test) :
    ∃ values, right = some (.value (.array values)) ∧ test = .membership negated values ∧
      ∀ v ∈ values, v.isArray = false := by
  unfold ofMembership at h
  split at h
  · split at h
    · cases h
    · rename_i values hnested
      split at h
      · cases h
      · cases h
        refine ⟨values, rfl, rfl, fun v hv => ?_⟩
        simpa using fun harray => hnested (List.any_eq_true.mpr ⟨v, hv, harray⟩)
  · cases h

/-- A list shows its items, except NULL. -/
theorem shown_list (negated : Bool) (values : List SqlValue) :
    (listOperator negated).shown (some (.value (.array values)))
      = values.filter fun v => !v.isNull := by
  have hwritten : (listOperator negated).written = id := by
    funext v
    cases negated <;> rfl
  rw [Operator.shown, hwritten, List.map_id]
  rfl

/-- A value that is no list is the only one of its operand. -/
theorem values_value {v : SqlValue} (harray : v.isArray = false) :
    Operand.values (.value v) = [v] := by
  cases v with
  | array _ => cases harray
  | _ => rfl

/-- A relation shows the one value that it compares with, in its written form. -/
theorem shown_value {r : Relation} {v : SqlValue} (hnull : v.isNull = false)
    (harray : v.isArray = false) :
    Operator.shown (.relation r) (some (.value v)) = [Operator.written (.relation r) v] := by
  rw [Operator.shown]
  show List.map _ (List.filter _ (Operand.values (.value v))) = _
  rw [values_value harray]
  simp [hnull]

/-! ### Comparisons that show no value -/

section WithoutValue

variable (w : Writer) (column : String) (ignoreCase : Bool)

/-- A test for NULL is one of the texts without a value. -/
theorem write_nullness (negated : Bool) (hright : ∀ other, right ≠ some (.column other)) :
    ∃ text ∈ op.textsWithoutValue w column ignoreCase right,
      Comparison.write w ⟨column, .nullness negated, ignoreCase⟩ = pure text := by
  refine ⟨w.identifier column ++ nullTestSql negated, ?_, rfl⟩
  unfold Operator.textsWithoutValue
  split
  · exact absurd rfl (hright _)
  · cases negated <;> simp

/-- A list that shows no value is empty or has only NULL in it; what is written is a constant
condition or a test for NULL. -/
theorem write_of_ofMembership {negated : Bool} (h : ofMembership negated right = .ok test)
    (hshown : (listOperator negated).shown right = []) :
    ∃ text ∈ op.textsWithoutValue w column ignoreCase right,
      Comparison.write w ⟨column, test, ignoreCase⟩ = pure text := by
  obtain ⟨values, rfl, rfl, -⟩ := of_ofMembership h
  rw [shown_list] at hshown
  cases hnull : values.any SqlValue.isNull with
  | true =>
    refine ⟨w.identifier column ++ nullTestSql negated, ?_, ?_⟩
    · cases negated <;> simp [Operator.textsWithoutValue]
    · simp [Comparison.write, writeMembership, hshown, hnull]
  | false =>
    refine ⟨if negated then "1=1" else "1<>1", ?_, ?_⟩
    · cases negated <;> simp [Operator.textsWithoutValue]
    · simp [Comparison.write, writeMembership, hshown, hnull]

/-- A relation shows no value where it compares two columns, or has become a test for NULL. -/
theorem write_of_ofRelation {r : Relation} (h : ofRelation r right = .ok test)
    (hshown : Operator.shown (.relation r) right = []) :
    ∃ text ∈ Operator.textsWithoutValue w column ignoreCase (.relation r) right,
      Comparison.write w ⟨column, test, ignoreCase⟩ = pure text := by
  match right with
  | none => cases h
  | some (.column other) =>
    cases h
    exact ⟨_, List.mem_singleton_self _, rfl⟩
  | some (.value v) =>
    -- A value that is not NULL would be shown.
    cases hnull : v.isNull with
    | true =>
      obtain ⟨negated, rfl⟩ := of_ofRelation_null h hnull
      exact write_nullness w column ignoreCase negated (by simp)
    | false =>
      obtain ⟨-, harray, -⟩ := of_ofRelation h hnull
      rw [shown_value hnull harray] at hshown
      cases hshown

/-- A comparison that passed its check and shows no value has nothing of a value in its text. -/
theorem write_of_ofOperator (h : ofOperator op right = .ok test) (hop : op ≠ .custom)
    (hshown : op.shown right = []) :
    ∃ text ∈ op.textsWithoutValue w column ignoreCase right,
      Comparison.write w ⟨column, test, ignoreCase⟩ = pure text := by
  cases op with
  | custom => exact absurd rfl hop
  | isIn =>
    have hin : ofMembership false right = .ok test := h
    exact write_of_ofMembership w column ignoreCase hin hshown
  | notIn =>
    have hnotIn : ofMembership true right = .ok test := h
    exact write_of_ofMembership w column ignoreCase hnotIn hshown
  | relation r => exact write_of_ofRelation w column ignoreCase h hshown
  | isNull | isNotNull =>
    obtain ⟨rfl, rfl | rfl⟩ := of_ofNullness h <;>
      exact write_nullness w column ignoreCase _ (by simp)

end WithoutValue

/-! ### Comparisons that show values -/

variable {b : Backend} {w : Writer} (hdialect : w.dialect = b.dialect)
include hdialect

/-- A list that shows a value is written as an operation on the values it shows, with the test for
NULL behind it. -/
theorem isOperation_of_ofMembership {negated : Bool} (h : ofMembership negated right = .ok test)
    (hverbatim : ∀ v ∈ right.elim [] Operand.values, v.isVerbatim = false)
    (hshown : (listOperator negated).shown right ≠ []) (column : String) (ignoreCase : Bool) :
    (Comparison.sql w.toStyle ⟨column, test, ignoreCase⟩).IsOperation b w column
      (listOperator negated) ((listOperator negated).shown right) := by
  obtain ⟨values, rfl, rfl, harray⟩ := of_ofMembership h
  rw [shown_list] at hshown ⊢
  have hbindable : ∀ v ∈ values, v.isNull = false → v.isBindable = true :=
    fun v hv hnull => SqlValue.isBindable_of hnull (hverbatim v hv) (harray v hv)
  exact isOperation_membershipSql hdialect _ negated values hbindable hshown

/-- A relation with a value is written as an operation on this one value. -/
theorem isOperation_of_ofRelation {r : Relation} (h : ofRelation r right = .ok test)
    (hverbatim : ∀ v ∈ right.elim [] Operand.values, v.isVerbatim = false)
    (hshown : Operator.shown (.relation r) right ≠ []) (column : String) (ignoreCase : Bool) :
    (Comparison.sql w.toStyle ⟨column, test, ignoreCase⟩).IsOperation b w column (.relation r)
      (Operator.shown (.relation r) right) := by
  match right with
  | none => cases h
  | some (.column _) => exact absurd rfl hshown
  | some (.value v) =>
    have hnull : v.isNull = false := by
      cases v with
      | null => exact absurd rfl hshown
      | _ => rfl
    obtain ⟨rfl, harray, hpattern⟩ := of_ofRelation h hnull
    have hv : v.isVerbatim = false := by
      refine hverbatim v ?_
      show v ∈ Operand.values (.value v)
      rw [values_value harray]
      exact List.mem_singleton_self v
    rw [shown_value hnull harray]
    cases hr : r.isPattern with
    | false =>
      have hbindable := SqlValue.isBindable_of hnull hv harray
      have hr' := Operator.sql_mem_spellings b.dialect (.relation r)
      rw [Comparison.sql_of_isPattern_eq_false hr, Operator.written_of_isPattern_eq_false hr]
      exact isOperation_valueSql hdialect hbindable hr' _
    | true =>
      -- Only a text is matched, since SQL text is left out.
      have htext : v.isText = true := (hpattern hr).resolve_right (by simp [hv])
      cases v with
      | string pattern =>
        cases r with
        | like => exact isOperation_patternSql hdialect _ false pattern
        | notLike => exact isOperation_patternSql hdialect _ true pattern
        | _ => cases hr
      | _ => cases htext

/-- A comparison that passed its check is an operation with the values that it shows. -/
theorem isOperation_of_ofOperator (h : ofOperator op right = .ok test) (hop : op ≠ .custom)
    (hverbatim : ∀ v ∈ right.elim [] Operand.values, v.isVerbatim = false)
    (hshown : op.shown right ≠ []) (column : String) (ignoreCase : Bool) :
    (Comparison.sql w.toStyle ⟨column, test, ignoreCase⟩).IsOperation b w column op
      (op.shown right) := by
  cases op with
  | custom => exact absurd rfl hop
  | isIn =>
    have hin : ofMembership false right = .ok test := h
    exact isOperation_of_ofMembership hdialect hin hverbatim hshown column ignoreCase
  | notIn =>
    have hnotIn : ofMembership true right = .ok test := h
    exact isOperation_of_ofMembership hdialect hnotIn hverbatim hshown column ignoreCase
  | relation r => exact isOperation_of_ofRelation hdialect h hverbatim hshown column ignoreCase
  | isNull | isNotNull =>
    -- There is no operand, or it is NULL, which is not shown.
    rcases (of_ofNullness h).2 with rfl | rfl <;> exact absurd rfl hshown

end Test

namespace Criterion

/-- A comparison that passed its check has nothing of a value in its text, or it shows values. Then
it is written as a column, an operator and an operand. The operand is read as the pieces of each
value with a little code between them, whatever stands behind it, exactly if every UUID among the
values is free of special characters. -/
theorem readsAs_operand (b : Backend) {w : Writer} (hdialect : w.dialect = b.dialect)
    (hmode : w.mode = .inline) {column : String} {op : Operator} {right : Option Operand}
    {ignoreCase : Bool} {c : Criterion} (h : compare column op right ignoreCase = .ok c)
    (hop : op ≠ .custom) (hverbatim : ∀ v ∈ right.elim [] Operand.values, v.isVerbatim = false) :
    (op.shown right = [] → ∃ text ∈ op.textsWithoutValue w column ignoreCase right,
      ∀ bound, Id.run ((c.write w).run bound) = (text, bound)) ∧
    (op.shown right ≠ [] → ∃ o : Operation, o.Compares b w column op (op.shown right) ∧
      (∀ bound, Id.run ((c.write w).run bound) = (o.text b.dialect, bound)) ∧
      (b.ReadsAs (o.operand.inline b.dialect) (o.operand.tokens b) ↔
        ∀ u, .uuid u ∈ right.elim [] Operand.values → b.literalRules.IsPlain u.toList)) := by
  obtain ⟨test, htest, rfl⟩ : ∃ test, Test.ofOperator op right = .ok test ∧
      c = comparison ⟨column, test, ignoreCase⟩ := by
    unfold compare at h
    split at h
    · rename_i test htest
      exact ⟨test, htest, (Except.ok.inj h).symm⟩
    · cases h
  rw [write, writeWithin]
  constructor
  · intro hshown
    obtain ⟨text, htext, hwrite⟩ :=
      Test.write_of_ofOperator w column ignoreCase htest hop hshown
    refine ⟨text, htext, fun bound => ?_⟩
    rw [hwrite]
    rfl
  · intro hshown
    obtain ⟨o, ho, htext⟩ :=
      Test.isOperation_of_ofOperator hdialect htest hop hverbatim hshown column ignoreCase
    refine ⟨o, ho, fun bound => ?_, ?_⟩
    · have hrun := (Comparison.writes_write (w := w) ⟨column, test, ignoreCase⟩).run bound
      rw [hmode, hdialect] at hrun
      rw [hrun, ← htext]
      -- Nothing is bound where values are literals.
      show (_, bound ++ []) = (_, bound)
      rw [List.append_nil]
      rfl
    · rw [ho.operand.separated.readsAs_iff, ho.operand.params]
      simp only [Operator.uuid_mem_shown_iff]

/-- Conditions for PostgreSQL with literals in them. -/
def postgresInline : Writer where
  dialect := Backend.postgres.dialect
  mode := .inline

/-- A list of a text with a quote in it, a UUID and NULL. -/
def quotedList : List SqlValue :=
  [.string "it's", .uuid "6f96-19ff", .null]

/-- A list of a text with a quote, a plain UUID and NULL, read back from the text that is written.
-/
theorem readsAs_operand_quotedList :
    ∃ (c : Criterion) (o : Operation),
      compare "t.name" .isIn (some (.value (.array quotedList))) false = .ok c ∧
      o.Compares .postgres postgresInline "t.name" .isIn [.string "it's", .uuid "6f96-19ff"] ∧
      Id.run ((c.write postgresInline).run []) = (o.text Backend.postgres.dialect, []) ∧
      Backend.postgres.ReadsAs (o.operand.inline Backend.postgres.dialect)
        (o.operand.tokens .postgres) := by
  have hdialect : postgresInline.dialect = Backend.postgres.dialect := rfl
  have hc : compare "t.name" .isIn (some (.value (.array quotedList))) false
      = .ok (comparison ⟨"t.name", .membership false quotedList, false⟩) := rfl
  have hverbatim : ∀ v ∈ quotedList, v.isVerbatim = false := by
    simp [quotedList, SqlValue.isVerbatim]
  have hshown : Operator.shown .isIn (some (.value (.array quotedList)))
      = [.string "it's", .uuid "6f96-19ff"] := rfl
  have hplain : ∀ u, SqlValue.uuid u ∈ quotedList →
      Backend.postgres.literalRules.IsPlain u.toList := by
    intro u hu
    obtain rfl : u = "6f96-19ff" := by simpa [quotedList] using hu
    exact Backend.isPlain_of_isFigures (by decide)
  obtain ⟨-, hvalues⟩ := readsAs_operand .postgres hdialect rfl hc (by decide) hverbatim
  -- The list shows two values, so it is not one of the texts without a value.
  obtain ⟨o, ho, hrun, hread⟩ := hvalues (by simp [hshown])
  rw [hshown] at ho
  exact ⟨_, o, hc, ho, hrun [], hread.mpr hplain⟩

/-- A UUID whose text ends its literal, so that the rest of it is read as a condition. -/
theorem uuid_readsAs_condition :
    ∃ c, compare "t.id" (.relation .eq) (some (.value (.uuid "x' OR 'a'='a"))) false = .ok c ∧
      Id.run ((c.write postgresInline).run []) = ("t.id='x' OR 'a'='a'", []) ∧
      Backend.postgres.literalRules.tokens? "'x' OR 'a'='a'".toList
        = some (.quoted "x" :: (Token.ofCode " OR " ++ [.quoted "a", .code '=', .quoted "a"])) := by
  refine ⟨_, rfl, rfl, ?_⟩
  decide +kernel

end Criterion

end SqlSelect
