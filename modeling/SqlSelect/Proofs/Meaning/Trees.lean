import SqlSelect.Proofs.Meaning.Grammar
import SqlSelect.Proofs.Rendering.Statement

/-!
# `SqlSelect.Proofs.Meaning.Trees`: criteria and the texts of their comparisons

A criterion is written with the texts of its comparisons from left to right. The values that they
bind are numbered through all of them.

* `Criterion.Built.wellFormed`: no criterion that can be built has an empty group, which would be
  written as nothing.
* `Criterion.atomTexts_append`, `Criterion.boundIn_sqlWithin`: the numbers go on from one criterion
  to the next.
-/

set_option autoImplicit false

namespace SqlSelect

namespace Criterion

/-! ### Trees that can be built -/

mutual

/-- No group of the criterion is empty. -/
def WellFormed : Criterion → Prop
  | comparison _ => True
  | group _ children => children ≠ [] ∧ AllWellFormed children

/-- No group of the criteria of a list is empty. -/
def AllWellFormed : List Criterion → Prop
  | [] => True
  | child :: children => child.WellFormed ∧ AllWellFormed children

end

/-- The criteria that can be built. -/
inductive Built : Criterion → Prop
  | comparison {column : String} {operator : Operator} {right : Option Operand} {ignoreCase : Bool}
      {c : Criterion} (h : compare column operator right ignoreCase = .ok c) : Built c
  | custom (sql : String) : Built (custom sql)
  | group {conjunction : Conjunction} {children : List Criterion} {c : Criterion}
      (h : ofList conjunction children = .ok c) (hs : ∀ child ∈ children, Built child) : Built c
  | and {left right : Criterion} (hl : Built left) (hr : Built right) : Built (left.and right)
  | or {left right : Criterion} (hl : Built left) (hr : Built right) : Built (left.or right)
  | ignoreCase {c : Criterion} (h : Built c) : Built c.ignoreCase

/-- Many criteria are well formed if each of them is. -/
theorem allWellFormed_iff {children : List Criterion} :
    AllWellFormed children ↔ ∀ child ∈ children, child.WellFormed := by
  induction children with
  | nil => simp [AllWellFormed]
  | cons child children ih => simp [AllWellFormed, ih]

/-- Joining makes no empty group. -/
theorem WellFormed.join {left right : Criterion} (hl : left.WellFormed) (hr : right.WellFormed)
    (conjunction : Conjunction) : (left.join conjunction right).WellFormed := by
  have hpair : (Criterion.group conjunction [left, right]).WellFormed :=
    ⟨by simp, hl, hr, trivial⟩
  cases left with
  | comparison c => exact hpair
  | group inner children =>
    unfold Criterion.join
    dsimp only
    split
    · -- The right criterion becomes the last child.
      refine ⟨by simp, allWellFormed_iff.mpr fun child hchild => ?_⟩
      rcases List.mem_append.mp hchild with hchild | hchild
      · exact allWellFormed_iff.mp hl.2 child hchild
      · rw [List.mem_singleton.mp hchild]
        exact hr
    · exact hpair

mutual

/-- Setting a flag makes no empty group. -/
theorem WellFormed.ignoreCase : {c : Criterion} → c.WellFormed → c.ignoreCase.WellFormed
  | .comparison _, _ => trivial
  | .group _ [], h => absurd rfl h.1
  | .group _ (child :: children), h => by
    rw [Criterion.ignoreCase]
    exact ⟨by simp [ignoreCaseAll], AllWellFormed.ignoreCaseAll h.2⟩

/-- The same for the children of a group. -/
theorem AllWellFormed.ignoreCaseAll : {children : List Criterion} → AllWellFormed children →
    AllWellFormed (Criterion.ignoreCaseAll children)
  | [], _ => trivial
  | _ :: _, h => ⟨h.1.ignoreCase, AllWellFormed.ignoreCaseAll h.2⟩

end

/-- Groups are checked when they are built, and no operation takes children away. -/
theorem Built.wellFormed {c : Criterion} (h : c.Built) : c.WellFormed := by
  induction h with
  | comparison h =>
    unfold compare at h
    split at h <;> cases h
    trivial
  | custom sql => trivial
  | group h _ ih =>
    unfold ofList at h
    split at h <;> cases h
    rename_i hempty
    exact ⟨by simpa using hempty, allWellFormed_iff.mpr ih⟩
  | and _ _ ihl ihr => exact ihl.join ihr .and
  | or _ _ ihl ihr => exact ihl.join ihr .or
  | ignoreCase _ ih => exact ih.ignoreCase

/-! ### Written comparisons -/

variable (s : Style) (mode : RenderMode)

/-- The texts of some comparisons, when `used` values are bound before them. -/
def atomTexts (used : Nat) (cs : List Comparison) : List String :=
  Sql.renderAll s.dialect mode used (cs.map (Comparison.sql s))

/-- The values that some comparisons bind. -/
def atomValues (cs : List Comparison) : List SqlValue :=
  (cs.map (Comparison.sql s)).flatMap (Sql.boundIn mode)

/-- Every comparison has a text. -/
theorem length_atomTexts (used : Nat) (cs : List Comparison) :
    (atomTexts s mode used cs).length = cs.length := by
  induction cs generalizing used with
  | nil => rfl
  | cons c cs ih => exact congrArg Nat.succ (ih _)

/-- Behind some comparisons the placeholders of the others go on with the next number. -/
theorem atomTexts_append (used : Nat) (xs ys : List Comparison) :
    atomTexts s mode used (xs ++ ys)
      = atomTexts s mode used xs ++ atomTexts s mode (used + (atomValues s mode xs).length) ys := by
  induction xs generalizing used with
  | nil => rfl
  | cons x xs ih =>
    have hused : used + ((Comparison.sql s x).boundIn mode).length + (atomValues s mode xs).length
        = used + (atomValues s mode (x :: xs)).length := by
      simp only [atomValues, List.map_cons, List.flatMap_cons, List.length_append]
      omega
    have htail := ih (used + ((Comparison.sql s x).boundIn mode).length)
    rw [hused] at htail
    exact congrArg (_ :: ·) htail

/-- The parentheses around a group bind nothing. -/
theorem boundIn_group (parent : Option Conjunction) (conjunction : Conjunction) (items : Sql) :
    (match parent with
      | some outer => if outer = conjunction then items else items.parenthesized
      | none => items : Sql).boundIn mode = items.boundIn mode := by
  cases parent with
  | none => rfl
  | some outer =>
    dsimp only
    split
    · rfl
    · exact Sql.boundIn_parenthesized mode items

mutual

/-- A criterion binds what its comparisons bind: the parentheses and words bind nothing. -/
theorem boundIn_sqlWithin (parent : Option Conjunction) : (c : Criterion) →
    (c.sqlWithin s parent).boundIn mode = atomValues s mode c.comparisons
  | comparison c => by
    rw [sqlWithin, comparisons]
    simp [atomValues]
  | group conjunction [] => by
    simp only [sqlWithin]
    refine (boundIn_group mode parent conjunction _).trans ?_
    rw [sqlOfAll, Sql.joinWith, Sql.boundIn_nil]
    rfl
  | group _ [only] => by
    rw [sqlWithin, boundIn_sqlWithin parent only]
    simp [comparisons, comparisonsOfAll]
  | group conjunction (first :: second :: rest) => by
    simp only [sqlWithin]
    refine (boundIn_group mode parent conjunction _).trans ?_
    rw [Sql.boundIn_joinWith, flatMap_boundIn_sqlOfAll conjunction (first :: second :: rest),
      comparisons]

/-- The children of a group bind their values one after the other. -/
theorem flatMap_boundIn_sqlOfAll (parent : Conjunction) : (cs : List Criterion) →
    (sqlOfAll s parent cs).flatMap (Sql.boundIn mode) = atomValues s mode (comparisonsOfAll cs)
  | [] => by
    rw [sqlOfAll]
    rfl
  | c :: cs => by
    rw [sqlOfAll, List.flatMap_cons, boundIn_sqlWithin (some parent) c,
      flatMap_boundIn_sqlOfAll parent cs, comparisonsOfAll]
    simp [atomValues]

end

/-- The level on which a criterion inside a group, or at the top, is written. -/
def levelWithin : Option Conjunction → Level
  | some parent => .chain parent
  | none => .chain .or

end Criterion

end SqlSelect
