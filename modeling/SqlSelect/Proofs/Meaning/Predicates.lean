import SqlSelect.Proofs.Meaning.Splice

/-!
# `SqlSelect.Proofs.Meaning.Predicates`: conditions with predicates in them

The atoms of a condition are predicates about operands. `ReadsPredicate` is the grammar of those
that a test for a list is written with, and `ReadsCondition` that of the whole condition. The texts
of the operands are given from left to right, each with what it stands for, and whatever stands in
them belongs to them. A comparison with NULL is unknown, so a predicate has one of three values.

* `ReadsCondition.unique`: a text has at most one reading.
* `ReadsCondition.asUnit`: a condition without words outside of parentheses is read as one unit
  wherever it stands.
-/

set_option autoImplicit false

namespace SqlSelect

/-! ### Values -/

namespace Truth

/-- The opposite; that of unknown is unknown. -/
def not : Truth → Truth
  | .false => .true
  | .unknown => .unknown
  | .true => .false

/-- A truth value, or its opposite. -/
def negateIf (negated : Bool) (v : Truth) : Truth :=
  if negated then v.not else v

/-- What is known to be so or not. -/
def ofBool (b : Bool) : Truth :=
  if b then .true else .false

/-- A test that is known is true exactly if it has the outcome that was asked for. -/
theorem negateIf_ofBool_eq_true_iff (negated b : Bool) :
    (ofBool b).negateIf negated = .true ↔ b = !negated := by
  cases negated <;> cases b <;> decide

end Truth

/-- A predicate about operands. -/
inductive Predicate (α : Type) where
  /-- Whether two operands are equal, or are not. -/
  | equals (negated : Bool) (left right : α)
  /-- Whether an operand is one of a list, or is none. -/
  | isIn (negated : Bool) (x : α) (items : List α)
  /-- Whether an operand is NULL, or is not. -/
  | isNull (negated : Bool) (x : α)

section

variable {V : Type} (same : V → V → Bool)

/-- Whether two values are equal. It is unknown if one of them is NULL. -/
def areEqual : Option V → Option V → Truth
  | some x, some y => Truth.ofBool (same x y)
  | _, _ => .unknown

/-- Whether a value is equal to the first of some others, or to the second, and so on. -/
def isAmong (x : Option V) : List (Option V) → Truth
  | [] => .false
  | y :: ys => (areEqual same x y).or (isAmong x ys)

/-- It is unknown whether NULL is among some values. -/
theorem isAmong_none (y : Option V) (ys : List (Option V)) :
    isAmong same none (y :: ys) = .unknown := by
  induction ys generalizing y with
  | nil => rfl
  | cons y' ys ih =>
    rw [isAmong, ih]
    rfl

/-- The value of a predicate by the values of its operands, of which NULL is none. -/
def Predicate.value {α : Type} (x : α → Option V) : Predicate α → Truth
  | equals negated l r => (areEqual same (x l) (x r)).negateIf negated
  | isIn negated y items => (isAmong same (x y) (items.map x)).negateIf negated
  | isNull negated y => (Truth.ofBool (x y).isNone).negateIf negated

end

/-- A condition with predicates for its atoms. -/
structure Condition (α : Type) where
  formula : Formula
  predicates : List (Predicate α)

/-- The value of a condition by the values of its operands. -/
def Condition.value {V α : Type} (same : V → V → Bool) (x : α → Option V) (c : Condition α) :
    Truth :=
  c.formula.value fun i => ((c.predicates.map (Predicate.value same x))[i]?).getD .unknown

/-- A condition of one predicate has the value of the predicate. -/
theorem Condition.value_atom {V α : Type} (same : V → V → Bool) (x : α → Option V)
    (p : Predicate α) : Condition.value same x ⟨.atom 0, [p]⟩ = p.value same x :=
  rfl

/-- A condition of two predicates has their combined value. -/
theorem Condition.value_joined {V α : Type} (same : V → V → Bool) (x : α → Option V)
    (conjunction : Conjunction) (p q : Predicate α) :
    Condition.value same x ⟨.joined conjunction (.atom 0) (.atom 1), [p, q]⟩
      = conjunction.combine (p.value same x) (q.value same x) :=
  rfl

/-! ### Texts -/

variable {α : Type}

/-- A text is read as a list of operands with commas between them. -/
inductive ReadsItems : List (String × α) → String → Prop
  | last (x : String × α) : ReadsItems [x] x.1
  | cons (x : String × α) {items : List (String × α)} {text : String} (h : ReadsItems items text) :
    ReadsItems (x :: items) (x.1 ++ "," ++ text)

/-- What stands behind the first operand of a predicate is read as an operator with the other
operands. -/
inductive ReadsOperator (x : α) : List (String × α) → String → Predicate α → Prop
  | equals (negated : Bool) (y : String × α) :
    ReadsOperator x [y] ((if negated then "<>" else "=") ++ y.1) (.equals negated x y.2)
  | isIn (negated : Bool) {items : List (String × α)} {text : String} (h : ReadsItems items text) :
    ReadsOperator x items ((if negated then " NOT IN (" else " IN (") ++ text ++ ")")
      (.isIn negated x (items.map Prod.snd))
  | isNull (negated : Bool) :
    ReadsOperator x [] (if negated then " IS NOT NULL" else " IS NULL") (.isNull negated x)

/-- A text is read as a predicate about some operands. -/
inductive ReadsPredicate : List (String × α) → String → Predicate α → Prop
  | intro (x : String × α) {rest : List (String × α)} {text : String} {p : Predicate α}
      (h : ReadsOperator x.2 rest text p) : ReadsPredicate (x :: rest) (x.1 ++ text) p

/-- A text is read as a condition on a level. -/
def ReadsCondition (level : Level) (operands : List (String × α)) (text : String)
    (c : Condition α) : Prop :=
  ∃ atoms, Spelled ReadsPredicate operands atoms c.predicates ∧ Reads level 0 atoms text c.formula

/-- A condition that is one predicate. -/
theorem ReadsCondition.atom {operands : List (String × α)} {text : String} {p : Predicate α}
    (h : ReadsPredicate operands text p) :
    ReadsCondition .primary operands text ⟨.atom 0, [p]⟩ := by
  have hspelled : Spelled ReadsPredicate (operands ++ []) [text] [p] := .cons h .nil
  rw [List.append_nil] at hspelled
  exact ⟨[text], hspelled, .atom 0 text⟩

/-- Two predicates with a word between them, in parentheses. -/
theorem ReadsCondition.joined (conjunction : Conjunction) {operands operands' : List (String × α)}
    {t u : String} {p q : Predicate α} (hp : ReadsPredicate operands t p)
    (hq : ReadsPredicate operands' u q) :
    ReadsCondition .primary (operands ++ operands') ("(" ++ (t ++ conjunction.sql ++ u) ++ ")")
      ⟨.joined conjunction (.atom 0) (.atom 1), [p, q]⟩ := by
  have hspelled : Spelled ReadsPredicate (operands ++ (operands' ++ [])) [t, u] [p, q] :=
    .cons hp (.cons hq .nil)
  rw [List.append_nil] at hspelled
  have hjoined := Reads.joined conjunction ((Reads.atom 0 t).of_primary _)
    ((Reads.atom (0 + [t].length) u).of_primary _)
  exact ⟨[t, u], hspelled, .parenthesized hjoined.of_chain⟩

/-! ### One reading -/

/-- A list ends with its closing parenthesis. -/
theorem ReadsItems.unique {items items' qs qs' : List (String × α)} {t t' : String}
    {r r' : List Char} (h : ReadsItems items t) (h' : ReadsItems items' t')
    (hitems : items ++ qs = items' ++ qs')
    (htext : t.toList ++ (')' :: r) = t'.toList ++ (')' :: r')) : items = items' ∧ t = t' := by
  induction h generalizing items' t' with
  | last x =>
    cases h' with
    | last x' =>
      obtain ⟨rfl, -⟩ := List.cons.inj hitems
      exact ⟨rfl, rfl⟩
    | cons x' h' =>
      -- Behind the first item one text has a comma and the other one the closing parenthesis.
      obtain ⟨rfl, -⟩ := List.cons.inj hitems
      simp at htext
  | cons x h ih =>
    cases h' with
    | last x' =>
      obtain ⟨rfl, -⟩ := List.cons.inj hitems
      simp at htext
    | cons x' h' =>
      obtain ⟨rfl, hrest⟩ := List.cons.inj hitems
      obtain ⟨rfl, rfl⟩ := ih h' hrest (by simpa using htext)
      exact ⟨rfl, rfl⟩

/-- The operators are told apart by how they start. -/
theorem ReadsOperator.unique {x : α} {rest rest' qs qs' : List (String × α)} {t t' : String}
    {p p' : Predicate α} {r r' : List Char} (h : ReadsOperator x rest t p)
    (h' : ReadsOperator x rest' t' p') (hrest : rest ++ qs = rest' ++ qs')
    (htext : t.toList ++ r = t'.toList ++ r') : rest = rest' ∧ t = t' ∧ p = p' := by
  -- Two different operators differ in one of the characters of the shorter one.
  cases h with
  | equals negated y =>
    cases h' with
    | equals negated' y' =>
      obtain ⟨rfl, -⟩ := List.cons.inj hrest
      cases negated <;> cases negated' <;> simp at htext ⊢
    | isIn negated' h' => cases negated <;> cases negated' <;> simp at htext
    | isNull negated' => cases negated <;> cases negated' <;> simp at htext
  | isIn negated h =>
    cases h' with
    | equals negated' y' => cases negated <;> cases negated' <;> simp at htext
    | isIn negated' h' =>
      obtain rfl : negated = negated' := by
        cases negated <;> cases negated' <;> simp at htext ⊢
      obtain ⟨rfl, rfl⟩ := h.unique h' hrest (by simpa using htext)
      exact ⟨rfl, rfl, rfl⟩
    | isNull negated' => cases negated <;> cases negated' <;> simp at htext
  | isNull negated =>
    cases h' with
    | equals negated' y' => cases negated <;> cases negated' <;> simp at htext
    | isIn negated' h' => cases negated <;> cases negated' <;> simp at htext
    | isNull negated' => cases negated <;> cases negated' <;> simp at htext ⊢

/-- An operator does not start with a parenthesis, so it can be told where the operand in front of
it ends. -/
theorem ReadsOperator.head?_ne {x : α} {rest : List (String × α)} {t : String} {p : Predicate α}
    (h : ReadsOperator x rest t p) : t.toList.head? ≠ some '(' := by
  cases h with
  | equals negated y => cases negated <;> simp
  | isIn negated h => cases negated <;> simp
  | isNull negated => cases negated <;> simp

/-- A predicate is spelled by its operands in one way only, as each operand is known from the list.
-/
theorem unambiguous_readsPredicate :
    Unambiguous Prod.fst (ReadsPredicate : List (String × α) → String → Predicate α → Prop) where
  starts h := by
    cases h with
    | intro x h => exact ⟨x, _, _, rfl, rfl, h.head?_ne⟩
  unique h h' hparts htext := by
    cases h with
    | intro x h =>
      cases h' with
      | intro x' h' =>
        -- Behind the first operand, which is the same, the operators are compared.
        obtain ⟨rfl, hrest⟩ := List.cons.inj hparts
        rw [String.toList_append, String.toList_append, List.append_assoc, List.append_assoc]
          at htext
        obtain ⟨rfl, rfl, rfl⟩ := h.unique h' hrest (List.append_cancel_left htext)
        exact ⟨rfl, rfl, rfl⟩

/-- A text has at most one reading as a condition about some operands. -/
theorem ReadsCondition.unique {level : Level} {operands : List (String × α)} {text : String}
    {c c' : Condition α} (h : ReadsCondition level operands text c)
    (h' : ReadsCondition level operands text c') : c = c' := by
  obtain ⟨formula, predicates⟩ := c
  obtain ⟨formula', predicates'⟩ := c'
  obtain ⟨atoms, hspelled, hread⟩ := h
  obtain ⟨atoms', hspelled', hread'⟩ := h'
  have hoperands : operands ++ [] = operands ++ [] := rfl
  have htext : text.toList ++ [] = text.toList ++ [] := rfl
  obtain ⟨-, -, hpredicates, -, hformula⟩ := hread.unique_of_spelled unambiguous_readsPredicate
    hread' hspelled hspelled' hoperands htext (stops_nil level) (stops_nil level)
  exact congr (congrArg Condition.mk hformula) hpredicates

/-! ### Units -/

/-- The values of some atoms when those of `f` count as one. There are `width` of them, and the
first one is in the place of the one. -/
def asOne (f : Formula) (place width : Nat) (ρ : Nat → Truth) (i : Nat) : Truth :=
  if i < place then ρ i
  else if i = place then f.value fun j => ρ (place + j)
  else ρ (i + width - 1)

/-- The atoms in front of a unit keep their values. -/
theorem asOne_of_lt {f : Formula} {place width i : Nat} (ρ : Nat → Truth) (h : i < place) :
    asOne f place width ρ i = ρ i :=
  if_pos h

/-- The unit has the value of its formula. -/
theorem asOne_self (f : Formula) (place width : Nat) (ρ : Nat → Truth) :
    asOne f place width ρ place = f.value fun j => ρ (place + j) := by
  simp [asOne]

/-- The atoms behind a unit have moved up by those that the unit took in. -/
theorem asOne_of_gt {f : Formula} {place width i : Nat} (ρ : Nat → Truth) (h : place < i) :
    asOne f place width ρ i = ρ (i + width - 1) := by
  rw [asOne, if_neg (by omega), if_neg (by omega)]

/-- Whatever can be read has an atom. -/
theorem Reads.length_pos {level : Level} {start : Nat} {atoms : List String} {text : String}
    {f : Formula} (h : Reads level start atoms text f) : 0 < atoms.length := by
  induction h with
  | atom => exact Nat.one_pos
  | parenthesized _ ih => exact ih
  | item _ _ ih => exact ih
  | joined _ _ _ ih _ =>
    rw [List.length_append]
    omega

/-- An item in the middle of two lists stands in the first one or in the second one. -/
theorem append_cons_eq_append {β : Type} {before behind as bs : List β} {b : β}
    (h : before ++ b :: behind = as ++ bs) :
    (∃ rest, as = before ++ b :: rest ∧ behind = rest ++ bs) ∨
      ∃ rest, before = as ++ rest ∧ bs = rest ++ b :: behind := by
  rcases List.append_eq_append_iff.mp h with ⟨rest, rfl, hrest⟩ | ⟨rest, rfl, rfl⟩
  · rcases List.cons_eq_append_iff.mp hrest with ⟨rfl, rfl⟩ | ⟨rest', rfl, rfl⟩
    · exact .inr ⟨[], by simp, rfl⟩
    · exact .inl ⟨rest', rfl, rfl⟩
  · exact .inr ⟨rest, rfl, rfl⟩

/-- Where a text without words outside of parentheses is an atom, the atoms in it may stand in its
place. Together they have the value that the text has there. -/
theorem Reads.refine {atoms : List String} {text : String} {f : Formula}
    (hf : Reads .primary 0 atoms text f) {level : Level} {start : Nat} {before behind : List String}
    {whole : String} {g : Formula} (h : Reads level start (before ++ text :: behind) whole g) :
    ∃ g', Reads level start (before ++ (atoms ++ behind)) whole g' ∧
      ∀ ρ, g'.value ρ = g.value (asOne f (start + before.length) atoms.length ρ) := by
  generalize hall : before ++ text :: behind = all at h
  induction h generalizing before behind with
  | atom start a =>
    -- There is nothing around the text.
    obtain ⟨rfl, hatom⟩ : before = [] ∧ text :: behind = [a] := by
      cases before with
      | nil => exact ⟨rfl, hall⟩
      | cons b before => simp at hall
    cases hatom
    refine ⟨f.shift start, ?_, fun ρ => ?_⟩
    · simpa using hf.shift start
    · rw [Formula.value_shift, Formula.value]
      exact (asOne_self f start atoms.length ρ).symm
  | parenthesized _ ih =>
    obtain ⟨g', hg', hvalue⟩ := ih hall
    exact ⟨g', .parenthesized hg', hvalue⟩
  | item conjunction _ ih =>
    obtain ⟨g', hg', hvalue⟩ := ih hall
    exact ⟨g', .item conjunction hg', hvalue⟩
  | @joined conjunction start as bs t u g₁ g₂ h₁ h₂ ih₁ ih₂ =>
    rcases append_cons_eq_append hall with ⟨rest, rfl, rfl⟩ | ⟨rest, rfl, rfl⟩
    · obtain ⟨g', hg', hvalue⟩ := ih₁ rfl
      -- The atoms behind are counted on from the last one of the condition.
      have hshift := h₂.shift (atoms.length - 1)
      have hplace : atoms.length - 1 + (start + (before ++ text :: rest).length)
          = start + (before ++ (atoms ++ rest)).length := by
        have hpos := hf.length_pos
        simp only [List.length_append, List.length_cons]
        omega
      rw [hplace] at hshift
      have hjoined := Reads.joined conjunction hg' hshift
      refine ⟨_, by simpa only [List.append_assoc] using hjoined, fun ρ => ?_⟩
      have hbehind : (g₂.shift (atoms.length - 1)).value ρ
          = g₂.value (asOne f (start + before.length) atoms.length ρ) := by
        rw [Formula.value_shift]
        refine h₂.madeOf.congr fun i _ => ?_
        have hpos := hf.length_pos
        rw [asOne_of_gt ρ (by simp only [List.length_append, List.length_cons]; omega)]
        congr 1
        omega
      rw [Formula.value, Formula.value, hvalue, hbehind]
    · -- The atoms in front keep their numbers.
      obtain ⟨g', hg', hvalue⟩ := ih₂ rfl
      have hjoined := Reads.joined conjunction h₁ hg'
      refine ⟨_, by simpa only [List.append_assoc] using hjoined, fun ρ => ?_⟩
      have hplace : start + (as ++ rest).length = start + as.length + rest.length := by
        rw [List.length_append, Nat.add_assoc]
      have hbefore : g₁.value ρ = g₁.value (asOne f (start + (as ++ rest).length) atoms.length ρ) :=
        h₁.madeOf.congr fun i hi => (asOne_of_lt ρ (by rw [List.length_append]; omega)).symm
      rw [Formula.value, Formula.value, hvalue, ← hplace, ← hbefore]

/-- A text is read as a condition, and as one unit wherever it stands. Where the text is an atom,
there is one reading in which the atoms of the condition stand in the place of the text, and
together they have the value of the condition there. -/
def ReadsAsUnit (operands : List (String × α)) (text : String) (c : Condition α) : Prop :=
  ∃ atoms, Spelled ReadsPredicate operands atoms c.predicates ∧
    Reads .primary 0 atoms text c.formula ∧
    ∀ (level : Level) (start : Nat) (before behind : List String) (whole : String) (g : Formula),
      Reads level start (before ++ text :: behind) whole g →
      ∃ g', Reads level start (before ++ (atoms ++ behind)) whole g' ∧
        (∀ h, Reads level start (before ++ (atoms ++ behind)) whole h → h = g') ∧
        ∀ ρ, g'.value ρ = g.value (asOne c.formula (start + before.length) atoms.length ρ)

/-- A condition between parentheses, or of one predicate, is read as one unit wherever its text
stands as an atom. -/
theorem ReadsCondition.asUnit {operands : List (String × α)} {text : String} {c : Condition α}
    (h : ReadsCondition .primary operands text c) : ReadsAsUnit operands text c := by
  obtain ⟨atoms, hspelled, hread⟩ := h
  refine ⟨atoms, hspelled, hread, fun level start before behind whole g hg => ?_⟩
  obtain ⟨g', hg', hvalue⟩ := hread.refine hg
  exact ⟨g', hg', fun h hh => hh.unique hg', hvalue⟩

/-- A condition without words outside of parentheses may stand anywhere. -/
theorem ReadsCondition.of_primary {operands : List (String × α)} {text : String} {c : Condition α}
    (h : ReadsCondition .primary operands text c) (level : Level) :
    ReadsCondition level operands text c := by
  obtain ⟨atoms, hspelled, hread⟩ := h
  exact ⟨atoms, hspelled, hread.of_primary level⟩

end SqlSelect
