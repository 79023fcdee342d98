import SqlSelect.Criteria.Statement
import SqlSelect.Proofs.Building.Acceptance
import SqlSelect.Proofs.Building.Operands
import SqlSelect.Proofs.Columns.Qualifiers
import SqlSelect.Proofs.Trimming

/-!
# `SqlSelect.Proofs.Columns.Arithmetic`: arithmetic on bare columns

An `Arithmetic` is an expression of bare columns and integers, with blanks around its operators.
There is no table in it, so `Column.tableNames` has to find a wildcard in it or refuse it. What it
takes for a wildcard is the sign of a multiplication, which stands between blanks as a wildcard
does. The signs of the other operators are not mistaken for one, nor is anything else, however the
expression is nested.

* `Arithmetic.hasWildcard_chars`: the wildcards in an expression, which are its multiplications.
* `Arithmetic.tableNames_text`: the tables of an expression.
* `Arithmetic.accepted_iff_multiplies`: the steps of building that are given an expression.
-/

set_option autoImplicit false

namespace SqlSelect

open Text Column

/-- An operator of arithmetic. -/
inductive ArithmeticOperator where
  | plus
  | minus
  | times
  | dividedBy
  deriving DecidableEq, Repr

/-- The sign of an operator. -/
def ArithmeticOperator.sign : ArithmeticOperator → Char
  | plus => '+'
  | minus => '-'
  | times => '*'
  | dividedBy => '/'

/-- An integer in an expression: digits, with or without a minus in front. -/
structure IntegerLiteral where
  negative : Bool
  digits : List Char
  digits_ne_nil : digits ≠ []
  all_isDigit : digits.all Char.isDigit = true

/-- The integer as it is written. -/
def IntegerLiteral.chars (n : IntegerLiteral) : List Char :=
  Number.signText n.negative ++ n.digits

/-- An arithmetic expression of bare columns and integers. -/
inductive Arithmetic where
  | column (name : { name : String // IsIdentifier name })
  | integer (n : IntegerLiteral)
  | parens (e : Arithmetic)
  | binary (left : Arithmetic) (operator : ArithmeticOperator) (right : Arithmetic)

namespace Arithmetic

/-- The expression as it is written, with a blank on either side of an operator. -/
def chars : Arithmetic → List Char
  | column name => name.val.toList
  | integer n => n.chars
  | parens e => '(' :: (e.chars ++ [')'])
  | binary left operator right => left.chars ++ ' ' :: operator.sign :: ' ' :: right.chars

/-- The text of the expression. -/
def text (e : Arithmetic) : String :=
  String.ofList e.chars

/-- Whether there is a multiplication in the expression. -/
def multiplies : Arithmetic → Bool
  | column _ | integer _ => false
  | parens e => e.multiplies
  | binary left operator right => left.multiplies || operator == .times || right.multiplies

/-! ### Words -/

/-- Whether a character can be in a column or an integer. -/
def isWordPart (c : Char) : Bool :=
  isIdentifierPart c || c == '-'

/-- A blank is in no identifier. -/
theorem isIdentifierPart_of_isBlank {c : Char} (h : isBlank c = true) :
    isIdentifierPart c = false := by
  -- There are few blanks, so that each can be looked up in the tables of word characters.
  have hcodes : ∀ n ∈ List.range' 9 5 ++ [0x20, 0x85, 0xa0, 0x1680] ++ List.range' 0x2000 11 ++
      [0x2028, 0x2029, 0x202f, 0x205f, 0x3000], isIdentifierPart (Char.ofNat n) = false := by
    decide +kernel
  have hc := hcodes c.toNat ?_
  · rwa [Char.ofNat_toNat] at hc
  · simp only [isBlank, Bool.or_eq_true, Bool.and_eq_true, decide_eq_true_eq, beq_iff_eq] at h
    simp only [List.mem_append, List.mem_range'_1, List.mem_cons, List.not_mem_nil, or_false]
    omega

/-- A word has no blanks in it. -/
theorem isBlank_of_isWordPart {c : Char} (h : isWordPart c = true) : isBlank c = false := by
  rw [isWordPart, Bool.or_eq_true, beq_iff_eq] at h
  rcases h with h | rfl
  · by_contra hblank
    rw [Bool.not_eq_false] at hblank
    rw [isIdentifierPart_of_isBlank hblank] at h
    cases h
  · decide

/-- A bare column is a word. -/
theorem isWordPart_of_isIdentifier {name : String} (h : IsIdentifier name) :
    name.toList ≠ [] ∧ ∀ c ∈ name.toList, isWordPart c = true := by
  constructor
  · obtain ⟨c, cs, hchars, -⟩ := h.exists_chars
    rw [hchars]
    exact List.cons_ne_nil c cs
  · intro c hc
    rw [isWordPart, h.isIdentifierPart c hc, Bool.true_or]

/-- An integer is a word, with its sign. -/
theorem isWordPart_of_integer (n : IntegerLiteral) :
    n.chars ≠ [] ∧ ∀ c ∈ n.chars, isWordPart c = true := by
  constructor
  · intro hnil
    exact n.digits_ne_nil (List.append_eq_nil_iff.mp hnil).2
  · intro c hc
    rcases List.mem_append.mp hc with hsign | hdigit
    · have hminus : c = '-' := by
        rw [Number.signText] at hsign
        split at hsign
        · exact List.mem_singleton.mp hsign
        · cases hsign
      rw [hminus]
      decide
    · -- Digits are ASCII characters, which the test for identifiers treats apart.
      have hdigit : c.isDigit = true := List.all_eq_true.mp n.all_isDigit c hdigit
      have halphanum : c.isAlphanum = true := by
        show (c.isAlpha || c.isDigit) = true
        rw [hdigit, Bool.or_true]
      have hascii : c.toNat < 0x80 := by
        have hhigh := (Number.toNat_of_isDigit hdigit).2
        omega
      simp [isWordPart, isIdentifierPart, isWordChar, hascii, halphanum]

/-! ### What the characters are -/

/-- Every expression has a character, so there is something to scan. -/
theorem chars_ne_nil (e : Arithmetic) : e.chars ≠ [] := by
  cases e with
  | column name => exact (isWordPart_of_isIdentifier name.property).1
  | integer n => exact (isWordPart_of_integer n).1
  | parens e => exact List.cons_ne_nil _ _
  | binary left operator right => simp [chars]

/-- Apart from columns and integers there are only signs, parentheses and blanks. -/
theorem notMem_chars {c : Char} (hword : isWordPart c = false)
    (hsigns : c ∉ [' ', '(', ')', '+', '*', '/']) (e : Arithmetic) : c ∉ e.chars := by
  have hatom : ∀ cs : List Char, (∀ x ∈ cs, isWordPart x = true) → c ∉ cs := by
    intro cs hcs hc
    rw [hcs c hc] at hword
    cases hword
  have hsign : ∀ operator : ArithmeticOperator, c ≠ operator.sign := by
    rintro operator rfl
    cases operator with
    | minus => cases hword
    | _ => exact hsigns (by decide)
  simp only [List.mem_cons, List.not_mem_nil, not_or, or_false] at hsigns
  obtain ⟨hblank, hopen, hclose, -⟩ := hsigns
  induction e with
  | column name => exact hatom _ (isWordPart_of_isIdentifier name.property).2
  | integer n => exact hatom _ (isWordPart_of_integer n).2
  | parens e ih => simp [chars, hopen, hclose, ih]
  | binary left operator right ihl ihr => simp [chars, hblank, hsign operator, ihl, ihr]

/-- There are no blanks at the ends of an expression. -/
theorem trim_chars (e : Arithmetic) : trim e.chars = e.chars := by
  have hatom : ∀ cs : List Char, (∀ c ∈ cs, isWordPart c = true) → trim cs = cs := by
    intro cs hcs
    exact trim_of_forall_not_isBlank fun c hc => isBlank_of_isWordPart (hcs c hc)
  induction e with
  | column name => exact hatom _ (isWordPart_of_isIdentifier name.property).2
  | integer n => exact hatom _ (isWordPart_of_integer n).2
  | parens e ih =>
    have hend := trimEnd_append (List.cons_ne_nil ')' []) (by decide) ('(' :: e.chars)
    rw [chars, trim, trimStart_cons (by decide)]
    exact hend
  | binary left operator right ihl ihr =>
    -- The blanks next to the sign are inside, since something stands on either side of them.
    have hsign : trim [operator.sign] = [operator.sign] := by cases operator <;> decide
    have hright := trim_append_blank hsign right.chars_ne_nil ihr
    rw [if_neg (List.cons_ne_nil _ _)] at hright
    have hleft := trim_append_blank ihl (List.cons_ne_nil _ _) hright
    rw [if_neg left.chars_ne_nil] at hleft
    exact hleft

/-! ### Wildcards -/

/-- A character that is not a `*`, and behind which none can stand alone. -/
def isInner (c : Char) : Bool :=
  !(isBlank c || c == '(' || c == ',') && c != '*'

/-- Behind an inner character no wildcard can start, whatever came in front of it. -/
theorem hasWildcard_cons {c : Char} (h : isInner c = true) (opened : Bool) (cs : List Char) :
    hasWildcard opened (c :: cs) = hasWildcard false cs := by
  rw [isInner, Bool.and_eq_true, Bool.not_eq_true', bne_iff_ne] at h
  obtain ⟨hopens, hstar⟩ := h
  have hbeq : (c == '*') = false := beq_eq_false_iff_ne.mpr hstar
  rw [hasWildcard, hopens, hbeq, Bool.and_false, Bool.false_and, Bool.false_or]

/-- No character of a word opens a wildcard or is one. -/
theorem isInner_of_isWordPart {c : Char} (h : isWordPart c = true) : isInner c = true := by
  have hother : ∀ x, isWordPart x = false → (c == x) = false := by
    intro x hx
    rw [beq_eq_false_iff_ne]
    rintro rfl
    rw [h] at hx
    cases hx
  rw [isInner, isBlank_of_isWordPart h, hother '(' (by decide), hother ',' (by decide), bne,
    hother '*' (by decide)]
  rfl

/-- There is no wildcard in a word, and none can stand right behind it. -/
theorem hasWildcard_word {word : List Char} (hne : word ≠ [])
    (h : ∀ c ∈ word, isWordPart c = true) (opened : Bool) (behind : List Char) :
    hasWildcard opened (word ++ behind) = hasWildcard false behind := by
  induction word generalizing opened with
  | nil => exact absurd rfl hne
  | cons c rest ih =>
    rw [List.cons_append, hasWildcard_cons (isInner_of_isWordPart (h c List.mem_cons_self))]
    cases rest with
    | nil => rfl
    | cons d rest =>
      exact ih (List.cons_ne_nil d rest) (fun x hx => h x (List.mem_cons_of_mem c hx)) false

/-- Between blanks, the sign of a multiplication is a wildcard and no other sign is. -/
theorem hasWildcard_sign (operator : ArithmeticOperator) (opened : Bool) (behind : List Char) :
    hasWildcard opened (' ' :: operator.sign :: ' ' :: behind)
      = (operator == .times || hasWildcard true behind) := by
  have hblank : ∀ (opened : Bool) (cs : List Char),
      hasWildcard opened (' ' :: cs) = hasWildcard true cs := by
    intro opened cs
    rw [hasWildcard]
    simp [isBlank]
  rw [hblank]
  cases operator with
  | times => rfl
  | _ =>
    rw [hasWildcard_cons (by decide), hblank]
    rfl

/-- The wildcards in an expression are its multiplications. An expression ends with a character
behind which no wildcard can stand. -/
theorem hasWildcard_chars (e : Arithmetic) (opened : Bool) (behind : List Char) :
    hasWildcard opened (e.chars ++ behind) = (e.multiplies || hasWildcard false behind) := by
  induction e generalizing opened behind with
  | column name =>
    -- A word has no wildcard in it, and behind it none is open.
    obtain ⟨hne, hword⟩ := isWordPart_of_isIdentifier name.property
    exact hasWildcard_word hne hword opened behind
  | integer n =>
    obtain ⟨hne, hword⟩ := isWordPart_of_integer n
    exact hasWildcard_word hne hword opened behind
  | parens e ih =>
    have hopen : hasWildcard opened ('(' :: (e.chars ++ ')' :: behind))
        = hasWildcard true (e.chars ++ ')' :: behind) := by
      rw [hasWildcard]
      simp
    rw [chars, List.cons_append, List.append_assoc, List.singleton_append, hopen, ih,
      hasWildcard_cons (by decide), multiplies]
  | binary left operator right ihl ihr =>
    rw [chars, List.append_assoc, ihl]
    show (left.multiplies || hasWildcard false (' ' :: operator.sign :: ' ' ::
      (right.chars ++ behind))) = _
    rw [hasWildcard_sign, ihr, multiplies, Bool.or_assoc, Bool.or_assoc]

/-! ### Tables -/

/-- An expression of bare columns and integers has no table. It is accepted all the same where it
multiplies, and malformed otherwise. -/
theorem tableNames_text (e : Arithmetic) :
    tableNames e.text = if e.multiplies then .ok [] else .error (.malformedColumn e.text) := by
  have hquote : '\'' ∉ e.chars := notMem_chars (by decide) (by decide) e
  have hdot : '.' ∉ e.chars := notMem_chars (by decide) (by decide) e
  have hwildcard : hasWildcard true e.chars = e.multiplies := by
    have hall := hasWildcard_chars e true []
    rwa [List.append_nil, hasWildcard, Bool.or_false] at hall
  rw [tableNames, text, String.toList_ofList, withoutQuoted_of_notMem hquote,
    qualifiers_of_notMem hdot, trim_chars, hwildcard]
  cases e.multiplies <;> rfl

/-! ### Steps of building -/

/-- What a step comes to that leaves the criteria `k` behind if it may have the expression. -/
def accepted (e : Arithmetic) (k : Criteria) : Except QueryError Criteria :=
  if e.multiplies then .ok k else .error (.malformedColumn e.text)

/-- Whether an expression is accepted does not depend on the criteria, so they can be changed before
or after. -/
theorem map_accepted (e : Arithmetic) (k : Criteria) (f : Criteria → Criteria) :
    (e.accepted k).map f = e.accepted (f k) := by
  unfold accepted
  split <;> rfl

/-- Nothing is registered for an expression of bare columns. -/
theorem register_text (e : Arithmetic) (k : Criteria) : k.register e.text = e.accepted k := by
  rw [Criteria.register, tableNames_text, accepted]
  split <;> rfl

/-- A condition on one expression is accepted as the expression is. -/
theorem registerCriterion_text (e : Arithmetic) (k : Criteria) {x : Comparison}
    (hcolumns : x.columns = [e.text]) (hcustom : x.operator ≠ .custom) :
    k.registerCriterion (.comparison x) = e.accepted k := by
  show [x].foldlM Criteria.registerComparison k = e.accepted k
  rw [List.foldlM_cons, Criteria.registerComparison_of_ne_custom hcustom, hcolumns,
    List.foldlM_cons, register_text, accepted]
  split <;> rfl

/-- A comparison with a value has one column. -/
theorem columns_of_withValue {column : String} {operator : Operator} {v : SqlValue} {c : Criterion}
    (hcustom : operator ≠ .custom) (h : Criterion.withValue column operator v = .ok c) :
    ∃ x : Comparison, c = .comparison x ∧ x.columns = [column] ∧ x.operator ≠ .custom := by
  obtain ⟨-, x, rfl, rfl, -, hkept⟩ := Criterion.of_compare h
  obtain ⟨hoperator, hright⟩ := Prod.mk.inj hkept
  refine ⟨x, rfl, Comparison.columns_of_right? ?_, ?_⟩
  · intro name
    rw [hright]
    exact operator.kept_snd_ne_column v name
  · rw [hoperator]
    exact Operator.kept_fst_ne_custom hcustom _

/-- An expression of bare columns and integers is accepted exactly if it multiplies, and then it
adds no table to the FROM clause. This holds of `tableNames`, of both ways to put the expression into
the select list, and of conditions that compare it with a value in WHERE and HAVING. Without a
multiplication, no condition may have it as a column anywhere. -/
theorem accepted_iff_multiplies (e : Arithmetic) :
    tableNames e.text = (if e.multiplies then .ok [] else .error (.malformedColumn e.text)) ∧
      ∀ k : Criteria,
        k.select e.text = e.accepted { k with selectColumns := k.selectColumns.insert e.text } ∧
        (∀ name, k.selectAs name e.text
          = e.accepted { k with namedColumns := k.namedColumns.put name e.text }) ∧
        (∀ v : SqlValue, k.whereEq e.text v
          = (Criterion.withValue e.text (.relation .eq) v).bind fun c =>
            e.accepted { k with predicate := Criteria.joinCondition .and k.predicate c }) ∧
        (∀ (operator : Operator) (v : SqlValue) (c : Criterion), operator ≠ .custom →
          Criterion.withValue e.text operator v = .ok c →
          k.andHaving c
            = e.accepted { k with having := Criteria.joinCondition .and k.having c }) ∧
        ∀ c : Criterion, e.multiplies = false →
          (∃ x ∈ c.comparisons, x.operator ≠ .custom ∧ e.text ∈ x.columns) →
          (∃ error, k.andWhere c = .error error) ∧ ∃ error, k.andHaving c = .error error := by
  refine ⟨e.tableNames_text, ?_⟩
  intro k
  refine ⟨?_, ?_, ?_, ?_, ?_⟩
  · rw [Criteria.select, register_text, map_accepted]
  · intro name
    rw [Criteria.selectAs, register_text, map_accepted]
  · intro v
    have heq : Operator.relation .eq ≠ .custom := nofun
    show (Criterion.withValue e.text (.relation .eq) v).bind k.andWhere = _
    cases hc : Criterion.withValue e.text (.relation .eq) v with
    | error error => rfl
    | ok c =>
      obtain ⟨x, rfl, hcolumns, hcustom⟩ := columns_of_withValue heq hc
      show k.andWhere (.comparison x) = _
      rw [Criteria.andWhere, registerCriterion_text e k hcolumns hcustom, map_accepted]
      rfl
  · intro operator v c hoperator hc
    obtain ⟨x, rfl, hcolumns, hcustom⟩ := columns_of_withValue hoperator hc
    rw [Criteria.andHaving, registerCriterion_text e k hcolumns hcustom, map_accepted]
  · rintro c hmultiplies ⟨x, hx, hcustom, hcolumn⟩
    -- Some column is at fault, be it this one or one in front of it.
    have hfault : c.checkedColumns.findSome? fault? ≠ none := by
      rw [Ne, findSome?_fault?_eq_none_iff]
      intro hall
      obtain ⟨tables, htables⟩ := hall e.text (c.mem_checkedColumns.mpr ⟨x, hx, hcustom, hcolumn⟩)
      rw [tableNames_text, hmultiplies] at htables
      cases htables
    obtain ⟨error, herror⟩ := Option.ne_none_iff_exists'.mp hfault
    constructor
    · exact ⟨error, errorOf?_eq_some_iff.mp ((k.errorOf?_andWhere c).trans herror)⟩
    · exact ⟨error, errorOf?_eq_some_iff.mp ((k.errorOf?_andHaving c).trans herror)⟩

/-- A difference that is divided, in a condition on groups. -/
theorem accepted_iff_multiplies_difference :
    ∃ e : Arithmetic, e.text = "(price - 12) / qty" ∧ e.multiplies = false ∧
      Operator.relation .gt ≠ .custom ∧
      ∃ c, Criterion.withValue e.text (.relation .gt) (SqlValue.int 5) = .ok c ∧
        Criteria.empty.andHaving c = .error (.malformedColumn "(price - 12) / qty") := by
  have hgt : Operator.relation .gt ≠ .custom := nofun
  have htext : (binary (parens (binary (column ⟨"price", by decide⟩) .minus
      (integer ⟨false, ['1', '2'], by decide, by decide⟩))) .dividedBy
      (column ⟨"qty", by decide⟩)).text = "(price - 12) / qty" := by decide +kernel
  refine ⟨_, htext, rfl, hgt, _, rfl, ?_⟩
  rw [← htext]
  exact ((accepted_iff_multiplies _).2 Criteria.empty).2.2.2.1 _ (SqlValue.int 5) _ hgt rfl

/-- The product of two bare columns is accepted, and the statement selects it from nothing. -/
theorem product_accepted :
    ∃ e : Arithmetic, e.text = "price * qty" ∧ tableNames e.text = .ok [] ∧
      ∃ k, Criteria.empty.select e.text = .ok k ∧
        k.inline Backend.postgres.dialect = .ok "SELECT price * qty" := by
  have htext : (binary (column ⟨"price", by decide⟩) .times (column ⟨"qty", by decide⟩)).text
      = "price * qty" := by decide +kernel
  have htables : tableNames "price * qty" = .ok [] := by decide +kernel
  have hstatement : (Criteria.empty.select "price * qty").bind
      (fun k => k.inline Backend.postgres.dialect) = .ok "SELECT price * qty" := by
    decide +kernel
  refine ⟨_, htext, htext ▸ htables, ?_⟩
  rw [htext]
  exact except_bind_eq_ok_iff.mp hstatement

end Arithmetic

end SqlSelect
