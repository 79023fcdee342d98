import SqlSelect.Criterion.Basic

/-!
# `SqlSelect.Proofs.Meaning.Truth`: what conditions say

A comparison with NULL is neither true nor false, so SQL has three truth values. `Criterion.value`
is the value of a criterion when the values of its comparisons are known: those of a group are
combined by its conjunction. The comparisons are counted from left to right, so one comparison that
stands in two places may have two values. A condition in itself counts as one comparison.

* `Criterion.value_join`: two criteria that are joined have the combined value, also where the
  second one becomes the last of a group.
-/

set_option autoImplicit false

namespace SqlSelect

/-- A truth value of SQL. -/
inductive Truth where
  | false
  | unknown
  | true
  deriving DecidableEq, Repr

namespace Truth

/-- Both: false as soon as one of the two is. -/
def and : Truth → Truth → Truth
  | .false, _ => .false
  | .true, v => v
  | .unknown, .false => .false
  | .unknown, _ => .unknown

/-- Either: true as soon as one of the two is. -/
def or : Truth → Truth → Truth
  | .true, _ => .true
  | .false, v => v
  | .unknown, .true => .true
  | .unknown, _ => .unknown

end Truth

namespace Conjunction

/-- Two truth values with the word between them. -/
def combine : Conjunction → Truth → Truth → Truth
  | and => Truth.and
  | or => Truth.or

/-- The value that leaves others as they are. -/
def neutral : Conjunction → Truth
  | and => .true
  | or => .false

/-- What is neutral changes nothing on the right. -/
@[simp] theorem combine_neutral (conjunction : Conjunction) (v : Truth) :
    conjunction.combine v conjunction.neutral = v := by
  cases conjunction <;> cases v <;> rfl

/-- Nor on the left. -/
@[simp] theorem neutral_combine (conjunction : Conjunction) (v : Truth) :
    conjunction.combine conjunction.neutral v = v := by
  cases conjunction <;> cases v <;> rfl

/-- How a chain of one conjunction is grouped does not matter, also where values are unknown. -/
theorem combine_assoc (conjunction : Conjunction) (u v w : Truth) :
    conjunction.combine (conjunction.combine u v) w
      = conjunction.combine u (conjunction.combine v w) := by
  cases conjunction <;> cases u <;> cases v <;> cases w <;> rfl

end Conjunction

namespace Criterion

mutual

/-- The value of a criterion whose comparisons have the values `ρ start`, `ρ (start + 1)`, … from
left to right. -/
def value (ρ : Nat → Truth) (start : Nat) : Criterion → Truth
  | comparison _ => ρ start
  | group conjunction children => valueOfAll ρ start conjunction children

/-- The combined value of the criteria of a list. -/
def valueOfAll (ρ : Nat → Truth) (start : Nat) (conjunction : Conjunction) :
    List Criterion → Truth
  | [] => conjunction.neutral
  | child :: children => conjunction.combine (child.value ρ start)
      (valueOfAll ρ (start + child.comparisons.length) conjunction children)

end

mutual

/-- The value depends on the values of the comparisons of the criterion only. -/
theorem value_congr {ρ ρ' : Nat → Truth} {start start' : Nat} : (c : Criterion) →
    (∀ i < c.comparisons.length, ρ (start + i) = ρ' (start' + i)) →
    c.value ρ start = c.value ρ' start'
  | comparison c, h => h 0 (by simp [comparisons])
  | group conjunction children, h => valueOfAll_congr conjunction children h

/-- The same for the children of a group. -/
theorem valueOfAll_congr {ρ ρ' : Nat → Truth} {start start' : Nat} (conjunction : Conjunction) :
    (children : List Criterion) →
    (∀ i < (comparisonsOfAll children).length, ρ (start + i) = ρ' (start' + i)) →
    valueOfAll ρ start conjunction children = valueOfAll ρ' start' conjunction children
  | [], _ => rfl
  | child :: children, h => by
    rw [comparisonsOfAll, List.length_append] at h
    have hchild := value_congr child fun i hi => h i (by omega)
    have hchildren : valueOfAll ρ (start + child.comparisons.length) conjunction children
        = valueOfAll ρ' (start' + child.comparisons.length) conjunction children := by
      refine valueOfAll_congr conjunction children fun i hi => ?_
      simpa only [Nat.add_assoc] using h (child.comparisons.length + i) (by omega)
    rw [valueOfAll, valueOfAll, hchild, hchildren]

end

/-- A criterion behind the others of a list is combined with them. -/
theorem valueOfAll_append_singleton (ρ : Nat → Truth) (start : Nat) (conjunction : Conjunction)
    (children : List Criterion) (last : Criterion) :
    valueOfAll ρ start conjunction (children ++ [last])
      = conjunction.combine (valueOfAll ρ start conjunction children)
          (last.value ρ (start + (comparisonsOfAll children).length)) := by
  induction children generalizing start with
  | nil => simp [valueOfAll, comparisonsOfAll]
  | cons child children ih =>
    have hstart : start + child.comparisons.length + (comparisonsOfAll children).length
        = start + (comparisonsOfAll (child :: children)).length := by
      rw [comparisonsOfAll, List.length_append]
      omega
    rw [List.cons_append, valueOfAll, valueOfAll, ih, hstart, Conjunction.combine_assoc]

/-- Two criteria alone in a group. -/
theorem value_pair (ρ : Nat → Truth) (start : Nat) (conjunction : Conjunction)
    (left right : Criterion) :
    (group conjunction [left, right]).value ρ start
      = conjunction.combine (left.value ρ start)
          (right.value ρ (start + left.comparisons.length)) := by
  simp [value, valueOfAll]

/-- Joining combines the values, since a group that is of the same conjunction may be left open. -/
theorem value_join (ρ : Nat → Truth) (start : Nat) (conjunction : Conjunction)
    (left right : Criterion) :
    (left.join conjunction right).value ρ start
      = conjunction.combine (left.value ρ start)
          (right.value ρ (start + left.comparisons.length)) := by
  cases left with
  | comparison c => exact value_pair ρ start conjunction _ right
  | group inner children =>
    unfold join
    dsimp only
    split
    · rename_i hsame
      subst hsame
      -- The second criterion becomes the last of the group.
      rw [value, valueOfAll_append_singleton, value, comparisons]
    · exact value_pair ρ start conjunction _ right

/-- The value of conditions that are joined, one after the other, to one of the value `v`. The
comparisons from `start` on are theirs. -/
def foldValue (ρ : Nat → Truth) (v : Truth) (start : Nat) :
    List (Conjunction × Criterion) → Truth
  | [] => v
  | (conjunction, c) :: rest =>
    foldValue ρ (conjunction.combine v (c.value ρ start)) (start + c.comparisons.length) rest

end Criterion

end SqlSelect
