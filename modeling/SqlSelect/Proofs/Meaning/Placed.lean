import SqlSelect.Proofs.Meaning.Splice
import SqlSelect.Proofs.Meaning.Trees

/-!
# `SqlSelect.Proofs.Meaning.Placed`: texts inside groups

A text is written for a condition, and it should have the value of the condition. Inside an AND
group a text with alternatives has to be carried along until another condition stands beside it,
since alone it is still right. `Placed` is what holds of a text inside a group, and `PlacedGroup` of
the text of several conditions.

* `Says.joined`: two texts say two conditions, if each may stand beside the word between them.
* `Blurs.and_append`, `Says.and_append_blurs`: a text with alternatives and another one with AND
  between them do not.
* `Placed.joined`: both together.
-/

set_option autoImplicit false

namespace SqlSelect

/-! ### Texts that say what they should, or not -/

/-- A text is read on a level as a formula that is true wherever `v` is. If `fits` holds, its value
is `v`; otherwise it is somewhere true where `v` is false. -/
structure Says (fits : Prop) (level : Level) (start : Nat) (atoms : List String) (text : String)
    (v : (Nat → Truth) → Truth) (f : Formula) : Prop where
  reads : Reads level start atoms text f
  complete : ∀ ρ, v ρ = .true → f.value ρ = .true
  exact : fits → ∀ ρ, f.value ρ = v ρ
  apart : ¬ fits → ∃ ρ, f.value ρ = .true ∧ v ρ = .false

/-- A text with alternatives, which is true wherever `v` is, does not fit beside AND. -/
structure Blurs (fits : Prop) (start : Nat) (atoms : List String) (text : String)
    (v : (Nat → Truth) → Truth) (f : Formula) : Prop where
  loose : Loose start atoms text f
  complete : ∀ ρ, v ρ = .true → f.value ρ = .true
  not_fits : ¬ fits

open Criterion (levelWithin)

/-- A text that stands in a group with the conjunction `parent`, or at the top, for a condition with
the value `v`. In an AND group it may have alternatives, and then it depends on what stands beside
it whether it says `v`. -/
def Placed (parent : Option Conjunction) (fits : Prop) (start : Nat) (atoms : List String)
    (text : String) (v : (Nat → Truth) → Truth) : Prop :=
  MadeOf start atoms.length v ∧ ∃ f, Says fits (levelWithin parent) start atoms text v f ∨
    parent = some .and ∧ Blurs fits start atoms text v f

/-- A text of several conditions with a conjunction between them, for a condition with the value
`v`. If it has alternatives, it does not say `v`, wherever it stands. -/
def PlacedGroup (conjunction : Conjunction) (fits : Prop) (start : Nat) (atoms : List String)
    (text : String) (v : (Nat → Truth) → Truth) : Prop :=
  MadeOf start atoms.length v ∧ ∃ f, Says fits (.chain conjunction) start atoms text v f ∨
    conjunction = .and ∧ ¬ fits ∧ Loose start atoms text f ∧
      Says fits (.chain .or) start atoms text v f

section

variable {p q : Prop} {start : Nat} {as bs : List String} {t u : String}
  {v w : (Nat → Truth) → Truth} {f g : Formula}

/-- What a chain of one conjunction says, it says as a whole condition too. -/
theorem Says.of_chain {conjunction : Conjunction} (h : Says p (.chain conjunction) start as t v f) :
    Says p (.chain .or) start as t v f :=
  { h with reads := h.reads.of_chain }

/-- In parentheses a text says the same wherever it stands. -/
theorem Says.parenthesized (h : Says p (.chain .or) start as t v f) (level : Level) :
    Says p level start as ("(" ++ t ++ ")") v f :=
  { h with reads := .of_primary (.parenthesized h.reads) level }

/-- Two texts on the level of a conjunction are joined by it. -/
theorem Says.joined {conjunction : Conjunction} (hv : MadeOf start as.length v)
    (hw : MadeOf (start + as.length) bs.length w)
    (hf : Says p (.chain conjunction) start as t v f)
    (hg : Says q (.chain conjunction) (start + as.length) bs u w g) :
    ∃ h, Says (p ∧ q) (.chain conjunction) start (as ++ bs) (t ++ conjunction.sql ++ u)
      (fun ρ => conjunction.combine (v ρ) (w ρ)) h := by
  obtain ⟨h, hread, hvalue⟩ := hf.reads.joined_append conjunction hg.reads
  refine ⟨h, hread, fun ρ hρ => ?_, fun hfits ρ => ?_, fun hnot => ?_⟩
  · rw [hvalue]
    cases conjunction with
    | and =>
      rw [Conjunction.combine_and_eq_true_iff] at hρ ⊢
      exact hρ.imp (hf.complete ρ) (hg.complete ρ)
    | or =>
      rw [Conjunction.combine_or_eq_true_iff] at hρ ⊢
      exact hρ.imp (hf.complete ρ) (hg.complete ρ)
  · rw [hvalue, hf.exact hfits.1, hg.exact hfits.2]
  · -- The other text has the value that leaves this one as it is.
    by_cases hp : p
    · obtain ⟨ρ, htrue, hfalse⟩ := hg.apart fun hq => hnot ⟨hp, hq⟩
      refine ⟨onlyAt (start + as.length) bs.length ρ conjunction.neutral, ?_, ?_⟩
      · rw [hvalue, hf.reads.madeOf.onlyAt_behind, hg.reads.madeOf.onlyAt_self, htrue,
          Conjunction.neutral_combine]
      · rw [hv.onlyAt_behind, hw.onlyAt_self, hfalse, Conjunction.neutral_combine]
    · obtain ⟨ρ, htrue, hfalse⟩ := hf.apart hp
      refine ⟨onlyAt start as.length ρ conjunction.neutral, ?_, ?_⟩
      · rw [hvalue, hf.reads.madeOf.onlyAt_self, hg.reads.madeOf.onlyAt_before, htrue,
          Conjunction.combine_neutral]
      · rw [hv.onlyAt_self, hw.onlyAt_before, hfalse, Conjunction.combine_neutral]

/-- A text with alternatives in front of AND does not say both conditions: where its atoms are true
and all others are not, one of its alternatives is true. -/
theorem Blurs.and_append (hw : MadeOf (start + as.length) bs.length w)
    (hf : Blurs p start as t v f) (hg : Reads (.chain .or) (start + as.length) bs u g)
    (hcomplete : ∀ ρ, w ρ = .true → g.value ρ = .true) :
    ∃ h, Loose start (as ++ bs) (t ++ Conjunction.and.sql ++ u) h ∧
      Says (p ∧ q) (.chain .or) start (as ++ bs) (t ++ Conjunction.and.sql ++ u)
        (fun ρ => Conjunction.and.combine (v ρ) (w ρ)) h := by
  obtain ⟨h, hloose, hboth, hleft⟩ := hf.loose.and_append hg
  refine ⟨h, hloose, hloose.reads, fun ρ hρ => ?_, fun hfits => absurd hfits.1 hf.not_fits,
    fun _ => ⟨onlyAt start as.length (fun _ => .true) .false, ?_, ?_⟩⟩
  · rw [Conjunction.combine_and_eq_true_iff] at hρ
    exact hboth ρ (hf.complete ρ hρ.1) (hcomplete ρ hρ.2)
  · exact hleft _ fun i hi => if_pos ⟨by omega, by omega⟩
  · rw [hw.onlyAt_before, Conjunction.combine_and_false]

/-- The same with the alternatives behind AND. -/
theorem Says.and_append_blurs (hv : MadeOf start as.length v)
    (hf : Says p (.chain .and) start as t v f) (hg : Blurs q (start + as.length) bs u w g) :
    ∃ h, Loose start (as ++ bs) (t ++ Conjunction.and.sql ++ u) h ∧
      Says (p ∧ q) (.chain .or) start (as ++ bs) (t ++ Conjunction.and.sql ++ u)
        (fun ρ => Conjunction.and.combine (v ρ) (w ρ)) h := by
  obtain ⟨h, hloose, hboth, hright⟩ := hf.reads.and_append_loose hg.loose
  refine ⟨h, hloose, hloose.reads, fun ρ hρ => ?_, fun hfits => absurd hfits.2 hg.not_fits,
    fun _ => ⟨onlyAt (start + as.length) bs.length (fun _ => .true) .false, ?_, ?_⟩⟩
  · rw [Conjunction.combine_and_eq_true_iff] at hρ
    exact hboth ρ (hf.complete ρ hρ.1) (hg.complete ρ hρ.2)
  · exact hright _ fun i hi => if_pos ⟨by omega, by omega⟩
  · rw [hv.onlyAt_behind, Conjunction.combine_false_and]

/-- Two texts in a group have the word of the group between them. -/
theorem Placed.joined {conjunction : Conjunction} (hf : Placed (some conjunction) p start as t v)
    (hg : Placed (some conjunction) q (start + as.length) bs u w) :
    PlacedGroup conjunction (p ∧ q) start (as ++ bs) (t ++ conjunction.sql ++ u)
      fun ρ => conjunction.combine (v ρ) (w ρ) := by
  obtain ⟨hv, f, hf⟩ := hf
  obtain ⟨hw, g, hg⟩ := hg
  refine ⟨by simpa using hv.combine hw conjunction, ?_⟩
  rcases hf with hf | ⟨hand, hf⟩
  · rcases hg with hg | ⟨hand, hg⟩
    · obtain ⟨h, hsaid⟩ := hf.joined hv hw hg
      exact ⟨h, .inl hsaid⟩
    · cases hand
      obtain ⟨h, hloose, hsaid⟩ := hf.and_append_blurs hv hg
      exact ⟨h, .inr ⟨rfl, fun hfits => hg.not_fits hfits.2, hloose, hsaid⟩⟩
  · -- The first text has alternatives, so it does not matter whether the second one has some too.
    cases hand
    have hread : Reads (.chain .or) (start + as.length) bs u g ∧
        ∀ ρ, w ρ = .true → g.value ρ = .true := by
      rcases hg with hg | ⟨-, hg⟩
      · exact ⟨hg.reads.of_chain, hg.complete⟩
      · exact ⟨hg.loose.reads, hg.complete⟩
    obtain ⟨h, hloose, hsaid⟩ := hf.and_append hw hread.1 hread.2
    exact ⟨h, .inr ⟨rfl, fun hfits => hf.not_fits hfits.1, hloose, hsaid⟩⟩

/-- The rest of a group is a part of it. -/
theorem PlacedGroup.placed {conjunction : Conjunction}
    (h : PlacedGroup conjunction p start as t v) : Placed (some conjunction) p start as t v := by
  obtain ⟨hv, f, hsaid | ⟨rfl, hnot, hloose, hsaid⟩⟩ := h
  · exact ⟨hv, f, .inl hsaid⟩
  · exact ⟨hv, f, .inr ⟨rfl, hloose, hsaid.complete, hnot⟩⟩

/-- At the top and between parentheses a text stands for itself. -/
theorem PlacedGroup.alone {conjunction : Conjunction} (h : PlacedGroup conjunction p start as t v) :
    ∃ f, Says p (.chain .or) start as t v f := by
  obtain ⟨-, f, hsaid | ⟨-, -, -, hsaid⟩⟩ := h
  · exact ⟨f, hsaid.of_chain⟩
  · exact ⟨f, hsaid⟩

end

end SqlSelect
