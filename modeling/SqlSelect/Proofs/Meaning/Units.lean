import SqlSelect.Proofs.Meaning.Placed

/-!
# `SqlSelect.Proofs.Meaning.Units`: what the text of a criterion says

A condition given as SQL text may have conditions in it, with AND and OR between them, and it is
written without parentheses around it. `Criterion.unitValue` is the value of a criterion when such a
text is evaluated as one unit. `Criterion.RawFits` tells whether each text fits where it stands: a
text with OR outside of parentheses does not fit into an AND group beside other conditions.

* `Comparison.placed`: how a comparison is written inside a group.
* `Criterion.isPlaced`: how a criterion is, by induction on the tree.
* `Criterion.says_sql`: the text of a criterion says the value of its units exactly if every text
  fits.
-/

set_option autoImplicit false

namespace SqlSelect

open Criterion (levelWithin)

/-! ### Units -/

/-- A text as a formula over its atoms, which are counted from 0. -/
structure Reading where
  atoms : List String
  formula : Formula

/-- How conditions given as SQL text are read. A text without a reading is an atom. -/
abbrev Readings := String → Option Reading

/-- Every reading is one by the grammar. -/
def Readings.Sound (r : Readings) : Prop :=
  ∀ sql, ∀ reading ∈ r sql, Reads (.chain .or) 0 reading.atoms sql reading.formula

namespace Comparison

variable (r : Readings)

/-- The reading of a comparison, if it is a condition given as SQL text and has one. -/
def reading? (c : Comparison) : Option Reading :=
  match c.test with
  | .raw sql => r sql
  | _ => none

/-- The atoms of a comparison that is written as a text. -/
def atoms (text : String) (c : Comparison) : List String :=
  match c.reading? r with
  | some reading => reading.atoms
  | none => [text]

/-- The number of atoms of a comparison. -/
def width (c : Comparison) : Nat :=
  match c.reading? r with
  | some reading => reading.atoms.length
  | none => 1

/-- The value of a comparison as one unit, when its atoms have the values `ρ start`,
`ρ (start + 1)`, … -/
def unitValue (start : Nat) (ρ : Nat → Truth) (c : Comparison) : Truth :=
  match c.reading? r with
  | some reading => reading.formula.value fun i => ρ (start + i)
  | none => ρ start

/-- Whether a comparison may stand on a level as it is written. -/
def Fits (level : Level) (c : Comparison) : Prop :=
  ∀ reading ∈ c.reading? r, ∀ sql, c.test = .raw sql →
    Reads level 0 reading.atoms sql reading.formula

/-- A comparison has as many atoms as it is wide. -/
theorem length_atoms (text : String) (c : Comparison) : (c.atoms r text).length = c.width r := by
  unfold atoms width
  cases c.reading? r <;> rfl

/-- A condition given as SQL text is written as it is. -/
theorem sql_of_reading? {r : Readings} {c : Comparison} {reading : Reading}
    (h : c.reading? r = some reading) :
    ∃ sql, c.test = .raw sql ∧ r sql = some reading ∧ ∀ s, c.sql s = Sql.ofText sql := by
  unfold reading? at h
  split at h
  · rename_i sql htest
    exact ⟨sql, htest, h, fun s => by rw [Comparison.sql, htest]⟩
  · cases h

/-- A comparison that is not taken apart fits anywhere. -/
theorem fits_of_reading? {r : Readings} {c : Comparison} (h : c.reading? r = none)
    (level : Level) : c.Fits r level := by
  intro reading hreading
  rw [h] at hreading
  cases hreading

/-- A text that is taken apart fits exactly where its reading is allowed. -/
theorem fits_iff {r : Readings} {c : Comparison} {reading : Reading} {sql : String}
    (h : c.reading? r = some reading) (htest : c.test = .raw sql) (level : Level) :
    c.Fits r level ↔ Reads level 0 reading.atoms sql reading.formula := by
  refine ⟨fun hfits => hfits reading h sql htest, fun hlevel other hother sql' htest' => ?_⟩
  rw [h] at hother
  cases hother
  rw [htest] at htest'
  cases htest'
  exact hlevel

/-- Where OR may stand, every text fits. -/
theorem fits_of_sound {r : Readings} (hr : r.Sound) (c : Comparison) : c.Fits r (.chain .or) := by
  cases hreading : c.reading? r with
  | none => exact fits_of_reading? hreading _
  | some reading =>
    obtain ⟨sql, htest, hsql, -⟩ := sql_of_reading? hreading
    exact (fits_iff hreading htest _).mpr (hr sql reading hsql)

/-- A comparison is read as one unit, unless it is a text with alternatives beside AND. -/
theorem placed (hr : r.Sound) (s : Style) (mode : RenderMode) (used start : Nat)
    (parent : Option Conjunction) (c : Comparison) :
    Placed parent (c.Fits r (levelWithin parent)) start
      (c.atoms r ((c.sql s).render s.dialect mode used)) ((c.sql s).render s.dialect mode used)
      fun ρ => c.unitValue r start ρ := by
  unfold atoms unitValue
  cases hreading : c.reading? r with
  | none =>
    have hatom := Reads.atom start ((c.sql s).render s.dialect mode used)
    exact ⟨hatom.madeOf, _, .inl ⟨hatom.of_primary _, fun ρ hρ => hρ, fun _ ρ => rfl,
      fun hnot => absurd (fits_of_reading? hreading _) hnot⟩⟩
  | some reading =>
    obtain ⟨sql, htest, hsql, htext⟩ := sql_of_reading? hreading
    rw [htext, Sql.render_ofText]
    have hread := hr sql reading hsql
    have hvalue := fun ρ => reading.formula.value_shift ρ start
    have hcomplete : ∀ ρ : Nat → Truth, (reading.formula.value fun i => ρ (start + i)) = .true →
        (reading.formula.shift start).value ρ = .true :=
      fun ρ hρ => (hvalue ρ).trans hρ
    have hmade : MadeOf start reading.atoms.length
        fun ρ => reading.formula.value fun i => ρ (start + i) := by
      simp only [← hvalue]
      exact (hread.shift start).madeOf
    -- Where its level is that of the place, the text is its reading with other numbers.
    have hsaid : Reads (levelWithin parent) 0 reading.atoms sql reading.formula →
        Says (c.Fits r (levelWithin parent)) (levelWithin parent) start reading.atoms sql
          (fun ρ => reading.formula.value fun i => ρ (start + i)) (reading.formula.shift start) :=
      fun hlevel => ⟨hlevel.shift start, hcomplete, fun _ => hvalue,
        fun hnot => absurd ((fits_iff hreading htest _).mpr hlevel) hnot⟩
    refine ⟨hmade, reading.formula.shift start, ?_⟩
    match parent with
    | none | some .or => exact .inl (hsaid hread)
    | some .and =>
      rcases hread.chain_and_or_loose with hand | hloose
      · exact .inl (hsaid hand)
      · exact .inr ⟨rfl, hloose.shift start, hcomplete,
          fun hfits => hloose.not_chain_and ((fits_iff hreading htest _).mp hfits)⟩

end Comparison

/-! ### Several comparisons -/

section

variable (r : Readings)

/-- The atoms of comparisons that are written as some texts. -/
def unitAtoms (texts : List String) (cs : List Comparison) : List String :=
  (List.zipWith (Comparison.atoms r) texts cs).flatten

/-- The number of atoms of some comparisons. -/
def unitCount : List Comparison → Nat
  | [] => 0
  | c :: cs => c.width r + unitCount cs

/-- The value of the comparison at a place, each as one unit, when the atoms of all of them have the
values `ρ start`, `ρ (start + 1)`, … -/
def unitValues (start : Nat) (ρ : Nat → Truth) : List Comparison → Nat → Truth
  | [], _ => .unknown
  | c :: _, 0 => c.unitValue r start ρ
  | c :: cs, i + 1 => unitValues (start + c.width r) ρ cs i

/-- Several comparisons have the atoms of each. -/
theorem length_unitAtoms {texts : List String} {cs : List Comparison}
    (h : texts.length = cs.length) : (unitAtoms r texts cs).length = unitCount r cs := by
  induction cs generalizing texts with
  | nil => simp [unitAtoms, unitCount]
  | cons c cs ih =>
    match texts, h with
    | text :: texts, h =>
      have hrest := ih (Nat.succ.inj h)
      rw [unitAtoms] at hrest ⊢
      rw [List.zipWith_cons_cons, List.flatten_cons, List.length_append, hrest,
        Comparison.length_atoms, unitCount]

/-- The atoms of comparisons behind others stand behind theirs. -/
theorem unitAtoms_append {texts texts' : List String} {cs cs' : List Comparison}
    (h : texts.length = cs.length) :
    unitAtoms r (texts ++ texts') (cs ++ cs') = unitAtoms r texts cs ++ unitAtoms r texts' cs' := by
  rw [unitAtoms, List.zipWith_append h, List.flatten_append]
  rfl

/-- The first of some comparisons have their values whatever stands behind them. -/
theorem unitValues_append_left (start : Nat) (ρ : Nat → Truth) {xs : List Comparison}
    (ys : List Comparison) {i : Nat} (hi : i < xs.length) :
    unitValues r start ρ (xs ++ ys) i = unitValues r start ρ xs i := by
  induction xs generalizing start i with
  | nil => cases hi
  | cons x xs ih =>
    cases i with
    | zero => rfl
    | succ i => exact ih _ (Nat.lt_of_succ_lt_succ hi)

/-- Those behind them are counted on from the atoms of the first ones. -/
theorem unitValues_append_right (start : Nat) (ρ : Nat → Truth) (xs ys : List Comparison)
    (i : Nat) :
    unitValues r start ρ (xs ++ ys) (xs.length + i)
      = unitValues r (start + unitCount r xs) ρ ys i := by
  induction xs generalizing start with
  | nil => simp [unitCount]
  | cons x xs ih =>
    have hrest := ih (start + x.width r)
    rw [List.length_cons, Nat.add_right_comm, List.cons_append, unitValues, hrest, unitCount,
      Nat.add_assoc]

end

namespace Criterion

variable (r : Readings)

/-- The value of a criterion when each condition given as SQL text is evaluated as one unit. -/
def unitValue (start : Nat) (ρ : Nat → Truth) (c : Criterion) : Truth :=
  c.value (unitValues r start ρ c.comparisons) 0

/-- The combined value of the criteria of a list in the same way. -/
def unitValueOfAll (start : Nat) (ρ : Nat → Truth) (conjunction : Conjunction)
    (cs : List Criterion) : Truth :=
  valueOfAll (unitValues r start ρ (comparisonsOfAll cs)) 0 conjunction cs

/-- The value of several criteria, with that of the first one split off. -/
theorem unitValueOfAll_cons (start : Nat) (ρ : Nat → Truth) (conjunction : Conjunction)
    (c : Criterion) (cs : List Criterion) :
    unitValueOfAll r start ρ conjunction (c :: cs)
      = conjunction.combine (c.unitValue r start ρ)
          (unitValueOfAll r (start + unitCount r c.comparisons) ρ conjunction cs) := by
  unfold unitValueOfAll unitValue
  rw [valueOfAll, comparisonsOfAll]
  -- The first criterion looks at its own comparisons only, and the others at those behind.
  have hfirst : c.value (unitValues r start ρ (c.comparisons ++ comparisonsOfAll cs)) 0
      = c.value (unitValues r start ρ c.comparisons) 0 := by
    refine value_congr c fun i hi => ?_
    rw [Nat.zero_add]
    exact unitValues_append_left r start ρ _ hi
  have hrest : valueOfAll (unitValues r start ρ (c.comparisons ++ comparisonsOfAll cs))
        (0 + c.comparisons.length) conjunction cs
      = valueOfAll (unitValues r (start + unitCount r c.comparisons) ρ (comparisonsOfAll cs)) 0
        conjunction cs := by
    refine valueOfAll_congr conjunction cs fun i _ => ?_
    rw [Nat.zero_add, Nat.zero_add]
    exact unitValues_append_right r start ρ _ _ i
  rw [hfirst, hrest]

mutual

/-- Whether no condition given as SQL text with alternatives is one of several conditions of an AND
group. The criterion is inside a group with the conjunction `parent`, or at the top; a group of one
criterion is none. -/
def RawFits (parent : Option Conjunction) : Criterion → Prop
  | comparison c => c.Fits r (levelWithin parent)
  | group _ [only] => RawFits parent only
  | group conjunction children => AllRawFit conjunction children

/-- The same of the criteria of a group with the conjunction `parent`. -/
def AllRawFit (parent : Conjunction) : List Criterion → Prop
  | [] => True
  | child :: children => RawFits (some parent) child ∧ AllRawFit parent children

end

variable {r : Readings} (s : Style) (mode : RenderMode)

/-- A group is written between parentheses where its word may not stand. -/
theorem placed_group {p : Prop} {conjunction : Conjunction} {items : Sql} {used start : Nat}
    {atoms : List String} {v : (Nat → Truth) → Truth}
    (h : PlacedGroup conjunction p start atoms (items.render s.dialect mode used) v)
    (parent : Option Conjunction) :
    Placed parent p start atoms
      ((match parent with
        | some outer => if outer = conjunction then items else items.parenthesized
        | none => items : Sql).render s.dialect mode used) v := by
  cases parent with
  | none =>
    obtain ⟨f, hsaid⟩ := h.alone
    exact ⟨h.1, f, .inl hsaid⟩
  | some outer =>
    -- In a group of its own conjunction the text joins the chain; otherwise it is a unit in
    -- parentheses.
    by_cases hsame : outer = conjunction
    · subst hsame
      simpa using h.placed
    · obtain ⟨f, hsaid⟩ := h.alone
      simp only [hsame, if_false, Sql.render_parenthesized]
      exact ⟨h.1, f, .inl (hsaid.parenthesized _)⟩

/-- A group of one criterion has the value of this criterion. -/
theorem unitValue_only (conjunction : Conjunction) (only : Criterion) (start : Nat)
    (ρ : Nat → Truth) :
    (group conjunction [only]).unitValue r start ρ = only.unitValue r start ρ := by
  simp [unitValue, value, valueOfAll, comparisons, comparisonsOfAll]

variable (r) in
/-- A criterion is placed with the texts that are written for it inside a group with the conjunction
`parent`, or at the top, when `used` values are bound before. -/
def IsPlaced (parent : Option Conjunction) (used start : Nat) (c : Criterion) : Prop :=
  Placed parent (c.RawFits r parent) start
    (unitAtoms r (atomTexts s mode used c.comparisons) c.comparisons)
    ((c.sqlWithin s parent).render s.dialect mode used) fun ρ => c.unitValue r start ρ

variable (r) in
/-- The same of the criteria of a group, or of the last ones of them. -/
def ArePlaced (conjunction : Conjunction) (used start : Nat) (children : List Criterion) : Prop :=
  Placed (some conjunction) (AllRawFit r conjunction children) start
    (unitAtoms r (atomTexts s mode used (comparisonsOfAll children)) (comparisonsOfAll children))
    ((Sql.joinWith conjunction.sql (sqlOfAll s conjunction children)).render s.dialect mode used)
    fun ρ => unitValueOfAll r start ρ conjunction children

/-- A criterion in front of others in a group: the values that it binds and its atoms are counted
first. -/
theorem placedGroup_cons {conjunction : Conjunction} {used start : Nat} {first second : Criterion}
    {rest : List Criterion}
    (hfirst : IsPlaced r s mode (some conjunction) used start first)
    (hrest : ArePlaced r s mode conjunction (used + (atomValues s mode first.comparisons).length)
      (start + unitCount r first.comparisons) (second :: rest)) :
    PlacedGroup conjunction (AllRawFit r conjunction (first :: second :: rest)) start
      (unitAtoms r (atomTexts s mode used (comparisonsOfAll (first :: second :: rest)))
        (comparisonsOfAll (first :: second :: rest)))
      ((Sql.joinWith conjunction.sql (sqlOfAll s conjunction (first :: second :: rest))).render
        s.dialect mode used)
      fun ρ => unitValueOfAll r start ρ conjunction (first :: second :: rest) := by
  unfold IsPlaced at hfirst
  unfold ArePlaced at hrest
  -- The rest counts its atoms from where those of the first one end.
  rw [← length_unitAtoms r (length_atomTexts s mode used first.comparisons)] at hrest
  have hjoined := hfirst.joined hrest
  rw [length_unitAtoms r (length_atomTexts ..), sqlOfAll] at hjoined
  simp only [unitValueOfAll_cons r start _ conjunction first]
  rw [comparisonsOfAll, atomTexts_append, unitAtoms_append r (length_atomTexts ..), sqlOfAll,
    sqlOfAll, Sql.render_joinWith_cons_cons, boundIn_sqlWithin]
  exact hjoined

mutual

/-- Every criterion is placed where it is written, by induction on the tree: the text of a group is
placed if the texts of its children are. -/
theorem isPlaced (hr : r.Sound) (parent : Option Conjunction) (used start : Nat) :
    (c : Criterion) → c.WellFormed → IsPlaced r s mode parent used start c
  | comparison c, _ => by
    have hplaced := c.placed r hr s mode used start parent
    simpa [IsPlaced, sqlWithin, comparisons, unitAtoms, atomTexts, Sql.renderAll, RawFits,
      unitValue, value, unitValues] using hplaced
  | group _ [], h => absurd rfl h.1
  | group conjunction [only], h => by
    -- A single child takes the place of its group.
    have honly := isPlaced hr parent used start only h.2.1
    simpa [IsPlaced, unitValue_only, RawFits, sqlWithin, comparisons, comparisonsOfAll] using honly
  | group conjunction (first :: second :: rest), h => by
    have hfirst := isPlaced hr (some conjunction) used start first h.2.1
    have hrest := arePlaced hr conjunction (used + (atomValues s mode first.comparisons).length)
      (start + unitCount r first.comparisons) (second :: rest) (by simp) h.2.2
    unfold IsPlaced
    simp only [sqlWithin]
    exact placed_group s mode (placedGroup_cons s mode hfirst hrest) parent

/-- The same for the children of a group, from the last one on. -/
theorem arePlaced (hr : r.Sound) (conjunction : Conjunction) (used start : Nat) :
    (children : List Criterion) → children ≠ [] → AllWellFormed children →
    ArePlaced r s mode conjunction used start children
  | [], hne, _ => absurd rfl hne
  | [only], _, h => by
    have honly := isPlaced hr (some conjunction) used start only h.1
    simpa [ArePlaced, IsPlaced, unitValueOfAll, unitValue, valueOfAll, comparisonsOfAll, AllRawFit,
      sqlOfAll, Sql.joinWith] using honly
  | first :: second :: rest, _, h => by
    have hfirst := isPlaced hr (some conjunction) used start first h.1
    have hrest := arePlaced hr conjunction (used + (atomValues s mode first.comparisons).length)
      (start + unitCount r first.comparisons) (second :: rest) (by simp) h.2
    -- What follows it in the group may still change what it says.
    exact (placedGroup_cons s mode hfirst hrest).placed

end

/-- The text of a criterion says the value of the criterion exactly if every condition given as SQL
text fits where it stands. -/
theorem says_sql (hr : r.Sound) (used start : Nat) {c : Criterion} (h : c.WellFormed) :
    ∃ f, Says (c.RawFits r none) (.chain .or) start
      (unitAtoms r (atomTexts s mode used c.comparisons) c.comparisons)
      ((c.sql s).render s.dialect mode used) (fun ρ => c.unitValue r start ρ) f := by
  obtain ⟨-, f, hsaid | ⟨hand, -⟩⟩ := isPlaced s mode hr none used start c h
  · exact ⟨f, hsaid⟩
  · cases hand

end Criterion

/-! ### Texts that are atoms -/

/-- The readings by which no text has more than one atom. -/
def Readings.none : Readings := fun _ => .none

/-- Taking no text apart is sound. -/
theorem Readings.sound_none : Readings.none.Sound := by
  intro _ _ hreading
  cases hreading

/-- No comparison is taken apart then. -/
theorem Comparison.reading?_none (c : Comparison) : c.reading? .none = none := by
  unfold reading?
  split <;> rfl

/-- Every text is then one atom. -/
theorem unitAtoms_none {texts : List String} {cs : List Comparison}
    (h : texts.length = cs.length) : unitAtoms .none texts cs = texts := by
  induction cs generalizing texts with
  | nil =>
    rw [List.length_eq_zero_iff.mp h]
    rfl
  | cons c cs ih =>
    match texts, h with
    | text :: texts, h =>
      have hrest := ih (Nat.succ.inj h)
      rw [unitAtoms] at hrest ⊢
      rw [List.zipWith_cons_cons, List.flatten_cons, hrest, Comparison.atoms, c.reading?_none]
      rfl

/-- And every comparison has the value of its own atom. -/
theorem unitValues_none (start : Nat) (ρ : Nat → Truth) {cs : List Comparison} {i : Nat}
    (hi : i < cs.length) : unitValues .none start ρ cs i = ρ (start + i) := by
  induction cs generalizing start i with
  | nil => cases hi
  | cons c cs ih =>
    cases i with
    | zero => rw [unitValues, Comparison.unitValue, c.reading?_none, Nat.add_zero]
    | succ i =>
      have hwidth : c.width .none = 1 := by rw [Comparison.width, c.reading?_none]
      rw [unitValues, ih _ (Nat.lt_of_succ_lt_succ hi), hwidth, Nat.add_right_comm, Nat.add_assoc]

namespace Criterion

/-- So the value of the units is the value of the comparisons. -/
theorem unitValue_none (start : Nat) (ρ : Nat → Truth) (c : Criterion) :
    c.unitValue .none start ρ = c.value ρ start := by
  refine value_congr c fun i hi => ?_
  rw [Nat.zero_add]
  exact unitValues_none start ρ hi

mutual

/-- An atom fits everywhere. -/
theorem rawFits_none (parent : Option Conjunction) : (c : Criterion) → c.RawFits .none parent
  | comparison c => Comparison.fits_of_reading? c.reading?_none _
  | group _ [] => trivial
  | group _ [only] => rawFits_none parent only
  | group conjunction (_ :: _ :: _) => allRawFit_none conjunction _

/-- The same for the children of a group. -/
theorem allRawFit_none (parent : Conjunction) : (children : List Criterion) →
    AllRawFit .none parent children
  | [] => trivial
  | child :: children => ⟨rawFits_none (some parent) child, allRawFit_none parent children⟩

end

end Criterion

end SqlSelect
