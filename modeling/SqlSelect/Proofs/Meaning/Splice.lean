import SqlSelect.Proofs.Meaning.Grammar

/-!
# `SqlSelect.Proofs.Meaning.Splice`: texts with AND between them

A text with OR outside of parentheses may stand beside AND, but it is then read differently: AND
takes the last of its alternatives from it, or the first one. `Loose` are the texts with such
alternatives.

* `Reads.madeOf`: the value of a text depends on its own atoms alone.
* `Reads.and_append`: two texts with AND between them are read somehow, and the text is true where
  both are.
* `Loose.and_append`, `Reads.and_append_loose`: if one of the two has alternatives, it may be true
  where the other one is not.
-/

set_option autoImplicit false

namespace SqlSelect

namespace Conjunction

/-- A condition joined with itself has its own value. -/
@[simp] theorem combine_self (conjunction : Conjunction) (v : Truth) :
    conjunction.combine v v = v := by
  cases conjunction <;> cases v <;> rfl

/-- Behind AND, what is false makes all false. -/
@[simp] theorem combine_and_false (v : Truth) : Conjunction.and.combine v .false = .false := by
  cases v <;> rfl

/-- In front of AND, what is false makes all false. -/
@[simp] theorem combine_false_and (v : Truth) : Conjunction.and.combine .false v = .false := rfl

/-- AND is true exactly if both sides are, and unknown is not. -/
theorem combine_and_eq_true_iff {u v : Truth} :
    Conjunction.and.combine u v = .true ↔ u = .true ∧ v = .true := by
  cases u <;> cases v <;> decide

/-- OR is true exactly if one of the sides is. -/
theorem combine_or_eq_true_iff {u v : Truth} :
    Conjunction.or.combine u v = .true ↔ u = .true ∨ v = .true := by
  cases u <;> cases v <;> decide

end Conjunction

/-! ### Values of atoms -/

/-- A value that is made of the values of `n` atoms from `start` on. It depends on them alone, and
where they are all the same it is no other. -/
structure MadeOf (start n : Nat) (v : (Nat → Truth) → Truth) : Prop where
  congr : ∀ {ρ ρ' : Nat → Truth}, (∀ i < n, ρ (start + i) = ρ' (start + i)) → v ρ = v ρ'
  const : ∀ {ρ : Nat → Truth} {w : Truth}, (∀ i < n, ρ (start + i) = w) → v ρ = w

/-- A value made of some atoms and one made of the atoms behind them are combined to one made of
both. -/
theorem MadeOf.combine {start n m : Nat} {u v : (Nat → Truth) → Truth} (hu : MadeOf start n u)
    (hv : MadeOf (start + n) m v) (conjunction : Conjunction) :
    MadeOf start (n + m) fun ρ => conjunction.combine (u ρ) (v ρ) where
  congr {ρ ρ'} h := by
    have hleft := hu.congr fun i hi => h i (by omega)
    have hright : v ρ = v ρ' := hv.congr fun i hi => by
      simpa only [Nat.add_assoc] using h (n + i) (by omega)
    rw [hleft, hright]
  const {ρ w} h := by
    have hleft := hu.const fun i hi => h i (by omega)
    have hright : v ρ = w := hv.const fun i hi => by
      simpa only [Nat.add_assoc] using h (n + i) (by omega)
    rw [hleft, hright, Conjunction.combine_self]

/-- The values of `n` atoms from `start` on, and one value for all others. -/
def onlyAt (start n : Nat) (ρ : Nat → Truth) (w : Truth) (i : Nat) : Truth :=
  if start ≤ i ∧ i < start + n then ρ i else w

namespace MadeOf

variable {start n m : Nat} {v : (Nat → Truth) → Truth} (ρ : Nat → Truth) (w : Truth)

/-- A value looks at its own atoms and at no others. -/
theorem onlyAt_self (h : MadeOf start n v) : v (onlyAt start n ρ w) = v ρ :=
  h.congr fun i hi => if_pos ⟨by omega, by omega⟩

/-- Where the atoms behind are all alike, a value made of them is alike too. -/
theorem onlyAt_before (h : MadeOf (start + n) m v) : v (onlyAt start n ρ w) = w :=
  h.const fun i hi => if_neg (by omega)

/-- The same for the atoms in front. -/
theorem onlyAt_behind (h : MadeOf start n v) : v (onlyAt (start + n) m ρ w) = w :=
  h.const fun i hi => if_neg (by omega)

end MadeOf

/-- A formula is made of the atoms of its text. -/
theorem Reads.madeOf {level : Level} {start : Nat} {atoms : List String} {text : String}
    {f : Formula} (h : Reads level start atoms text f) :
    MadeOf start atoms.length fun ρ => f.value ρ := by
  induction h with
  | atom start a => exact ⟨fun h => h 0 (by simp), fun h => h 0 (by simp)⟩
  | parenthesized _ ih => exact ih
  | item _ _ ih => exact ih
  | joined conjunction _ _ ihf ihg =>
    rw [List.length_append]
    exact ihf.combine ihg conjunction

/-! ### Counting from elsewhere -/

namespace Formula

/-- The formula with its atoms counted from `k` on. -/
def shift (k : Nat) : Formula → Formula
  | atom i => atom (k + i)
  | joined conjunction f g => joined conjunction (f.shift k) (g.shift k)

/-- A formula that counts from elsewhere has the value of the moved atoms. -/
theorem value_shift (ρ : Nat → Truth) (k : Nat) (f : Formula) :
    (f.shift k).value ρ = f.value fun i => ρ (k + i) := by
  induction f with
  | atom i => rfl
  | joined conjunction f g ihf ihg => rw [shift, value, value, ihf, ihg]

end Formula

/-- A reading is one from wherever its atoms are counted. -/
theorem Reads.shift {level : Level} {start : Nat} {atoms : List String} {text : String}
    {f : Formula} (h : Reads level start atoms text f) (k : Nat) :
    Reads level (k + start) atoms text (f.shift k) := by
  induction h with
  | atom start a => exact .atom (k + start) a
  | parenthesized _ ih => exact .parenthesized ih
  | item conjunction _ ih => exact .item conjunction ih
  | joined conjunction _ _ ihf ihg =>
    rw [← Nat.add_assoc] at ihg
    exact .joined conjunction ihf ihg

/-! ### Alternatives beside AND -/

/-- A text with alternatives: it has OR in it outside of parentheses. -/
inductive Loose : Nat → List String → String → Formula → Prop
  | intro {start : Nat} {as bs : List String} {t u : String} {f g : Formula}
      (hf : Reads (.chain .and) start as t f) (hg : Reads (.chain .or) (start + as.length) bs u g) :
      Loose start (as ++ bs) (t ++ Conjunction.or.sql ++ u) (.joined .or f g)

section

variable {start : Nat} {as bs : List String} {t u : String} {f g : Formula}

/-- A text with alternatives is read as a chain of OR. -/
theorem Loose.reads (h : Loose start as t f) : Reads (.chain .or) start as t f := by
  obtain ⟨hf, hg⟩ := h
  exact .joined .or hf hg

/-- Alternatives are alternatives from wherever the atoms are counted. -/
theorem Loose.shift (h : Loose start as t f) (k : Nat) : Loose (k + start) as t (f.shift k) := by
  cases h with
  | intro hf hg =>
    have hrest := hg.shift k
    rw [← Nat.add_assoc] at hrest
    exact .intro (hf.shift k) hrest

/-- A text has no alternatives, or it has some. -/
theorem Reads.chain_and_or_loose (h : Reads (.chain .or) start as t f) :
    Reads (.chain .and) start as t f ∨ Loose start as t f := by
  cases h with
  | item _ h => exact .inl h
  | joined _ hf hg => exact .inr ⟨hf, hg⟩

/-- Beside AND a text with alternatives is not read as a whole. -/
theorem Loose.not_chain_and (h : Loose start as t f) : ¬ Reads (.chain .and) start as t f := by
  cases h with
  | @intro as bs t u f g hf _ =>
    intro hand
    have hatoms : as ++ bs = (as ++ bs) ++ [] := (List.append_nil _).symm
    have htext : t.toList ++ (Conjunction.or.sql.toList ++ u.toList)
        = (t ++ Conjunction.or.sql ++ u).toList ++ [] := by
      simp
    -- The first alternative would be the whole text.
    obtain ⟨-, hsame, -⟩ := hf.unique_of_rest hand hatoms htext
      (stops_itemLevel_of_word .or u.toList) (stops_nil _)
    have hlength := congrArg String.length hsame
    have hword : Conjunction.or.sql.length = 4 := rfl
    rw [String.length_append, String.length_append, hword] at hlength
    omega

/-- A text with alternatives behind AND: AND takes the first one, and the others are left. -/
theorem Reads.and_append_loose (hf : Reads (.chain .and) start as t f)
    (hg : Loose (start + as.length) bs u g) :
    ∃ h, Loose start (as ++ bs) (t ++ Conjunction.and.sql ++ u) h ∧
      (∀ ρ, f.value ρ = .true → g.value ρ = .true → h.value ρ = .true) ∧
      ∀ ρ, (∀ i < bs.length, ρ (start + as.length + i) = .true) → h.value ρ = .true := by
  cases hg with
  | @intro bs₁ bs₂ u₁ u₂ g₁ g₂ hg₁ hg₂ =>
    -- AND takes the first alternative, and the second one stays an alternative of the whole.
    obtain ⟨h, hh, hvalue⟩ := hf.joined_append .and hg₁
    have hrest := hg₂
    rw [Nat.add_assoc, ← List.length_append] at hrest
    have hloose := Loose.intro hh hrest
    simp only [List.append_assoc, String.append_assoc] at hloose ⊢
    refine ⟨_, hloose, fun ρ hfρ hgρ => ?_, fun ρ hρ => ?_⟩
    · rw [Formula.value, Conjunction.combine_or_eq_true_iff] at hgρ ⊢
      rw [hvalue, Conjunction.combine_and_eq_true_iff]
      tauto
    · rw [Formula.value, Conjunction.combine_or_eq_true_iff]
      refine .inr (hg₂.madeOf.const fun i hi => ?_)
      simpa only [Nat.add_assoc] using hρ (bs₁.length + i) (by rw [List.length_append]; omega)

/-- Two texts may have AND between them, and what is read is true where both are. -/
theorem Reads.and_append (hf : Reads (.chain .or) start as t f)
    (hg : Reads (.chain .or) (start + as.length) bs u g) :
    ∃ h, Reads (.chain .or) start (as ++ bs) (t ++ Conjunction.and.sql ++ u) h ∧
      ∀ ρ, f.value ρ = .true → g.value ρ = .true → h.value ρ = .true := by
  generalize hlevel : Level.chain .or = level at hf
  induction hf with
  | atom | parenthesized => cases hlevel
  | item _ hf =>
    cases hlevel
    rcases hg.chain_and_or_loose with hg | hg
    · obtain ⟨h, hh, hvalue⟩ := hf.joined_append .and hg
      refine ⟨h, .item .or hh, fun ρ hfρ hgρ => ?_⟩
      rw [hvalue, hfρ, hgρ, Conjunction.combine_self]
    · obtain ⟨h, hh, hvalue, -⟩ := hf.and_append_loose hg
      exact ⟨h, hh.reads, hvalue⟩
  | @joined _ start as₁ as₂ t₁ t₂ f₁ f₂ hf₁ _ _ ih =>
    cases hlevel
    -- AND takes the last alternative of the first text.
    rw [List.length_append, ← Nat.add_assoc] at hg
    obtain ⟨h, hh, hvalue⟩ := ih hg rfl
    have hread := Reads.joined .or hf₁ hh
    simp only [List.append_assoc, String.append_assoc] at hread ⊢
    refine ⟨_, hread, fun ρ hfρ hgρ => ?_⟩
    rw [Formula.value, Conjunction.combine_or_eq_true_iff] at hfρ ⊢
    exact hfρ.imp_right fun hf₂ρ => hvalue ρ hf₂ρ hgρ

/-- A text with alternatives in front of AND: the first one is left as it is. -/
theorem Loose.and_append (hf : Loose start as t f)
    (hg : Reads (.chain .or) (start + as.length) bs u g) :
    ∃ h, Loose start (as ++ bs) (t ++ Conjunction.and.sql ++ u) h ∧
      (∀ ρ, f.value ρ = .true → g.value ρ = .true → h.value ρ = .true) ∧
      ∀ ρ, (∀ i < as.length, ρ (start + i) = .true) → h.value ρ = .true := by
  cases hf with
  | @intro as₁ as₂ t₁ t₂ f₁ f₂ hf₁ hf₂ =>
    rw [List.length_append, ← Nat.add_assoc] at hg
    -- AND takes the last alternative, which is read together with what follows.
    obtain ⟨h, hh, hvalue⟩ := hf₂.and_append hg
    have hloose := Loose.intro hf₁ hh
    simp only [List.append_assoc, String.append_assoc] at hloose ⊢
    refine ⟨_, hloose, fun ρ hfρ hgρ => ?_, fun ρ hρ => ?_⟩
    · rw [Formula.value, Conjunction.combine_or_eq_true_iff] at hfρ ⊢
      exact hfρ.imp_right fun hf₂ρ => hvalue ρ hf₂ρ hgρ
    · rw [Formula.value, Conjunction.combine_or_eq_true_iff]
      exact .inl (hf₁.madeOf.const fun i hi => hρ i (by rw [List.length_append]; omega))

end

end SqlSelect
