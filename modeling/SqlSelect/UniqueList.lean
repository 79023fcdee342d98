/-!
# `SqlSelect.UniqueList`: lists without repetitions

A unique list holds its items in the order in which they were first added, each once.
`UniqueList.add`, `UniqueList.remove` and `UniqueList.replace` also tell whether they did what they
were asked for: adding an item that is there changes nothing, removing one keeps the order of the
others, and an item is replaced in its place by one that is not there. The new item is added at the
end for this, and moves into the place of the old one when that is taken out.

* `UniqueList.swapRemove_append_singleton`: the last item moves into the place that becomes free.
* `UniqueList.toList_insert`, `UniqueList.toList_remove`, `UniqueList.toList_replace`: the items
  after each change.
* `UniqueList.fst_replace`: when an item is put at a place.
* `UniqueList.toList_insertAll`, `UniqueList.toList_ofList`: the items after a list of items has
  been added.
-/

set_option autoImplicit false

namespace SqlSelect

/-- A list without repetitions. -/
structure UniqueList (α : Type) where
  toList : List α
  nodup : toList.Nodup

namespace UniqueList

/-- A list with an item behind it that was not there has no repetitions. -/
theorem nodup_append_of_notMem {α : Type} {xs : List α} {x : α} (h : xs.Nodup) (hx : x ∉ xs) :
    (xs ++ [x]).Nodup := by
  refine List.nodup_append.2 ⟨h, by simp, ?_⟩
  intro a ha b hb
  simp only [List.mem_singleton] at hb
  subst hb
  exact fun hab => hx (hab ▸ ha)

/-- A list with an item in the place of another that was not there has no repetitions. -/
theorem nodup_set_of_notMem {α : Type} {xs : List α} {i : Nat} {x : α} (h : xs.Nodup)
    (hx : x ∉ xs) : (xs.set i x).Nodup := by
  induction xs generalizing i with
  | nil => simp
  | cons y ys ih =>
    simp only [List.mem_cons, not_or] at hx
    simp only [List.nodup_cons] at h
    cases i with
    | zero => simpa using ⟨hx.2, h.2⟩
    | succ i =>
      simp only [List.set_cons_succ, List.nodup_cons]
      refine ⟨fun hy => ?_, ih h.2 hx.2⟩
      rcases List.mem_or_eq_of_mem_set hy with hy | hy
      · exact h.1 hy
      · exact hx.1 hy.symm

/-- A list without the item at a place, into which the last item moves. A place that does not exist
takes nothing out. -/
def swapRemove {α : Type} (xs : List α) (i : Nat) : List α :=
  match xs.getLast? with
  | some last => if i < xs.length then xs.dropLast.set i last else xs
  | none => xs

/-- The last item is the one that moves. Where it is taken out itself, there is no place left for
it. -/
theorem swapRemove_append_singleton {α : Type} {xs : List α} {i : Nat} (h : i < xs.length + 1)
    (x : α) : swapRemove (xs ++ [x]) i = xs.set i x := by
  have hlength : i < (xs ++ [x]).length := by simpa using h
  rw [swapRemove, List.getLast?_concat, List.dropLast_concat]
  exact if_pos hlength

/-- Moving the last item repeats none. -/
theorem nodup_swapRemove {α : Type} {xs : List α} (h : xs.Nodup) (i : Nat) :
    (swapRemove xs i).Nodup := by
  rcases List.eq_nil_or_concat xs with rfl | ⟨front, last, rfl⟩
  · exact h
  · rw [List.concat_eq_append] at h ⊢
    by_cases hi : i < front.length + 1
    · obtain ⟨hfront, -, hlast⟩ := List.nodup_append.1 h
      have hnot : last ∉ front := fun hmem => hlast last hmem last List.mem_cons_self rfl
      rw [swapRemove_append_singleton hi]
      exact nodup_set_of_notMem hfront hnot
    · have hlength : ¬ i < (front ++ [last]).length := by simpa using hi
      rw [swapRemove, List.getLast?_concat]
      dsimp only
      rwa [if_neg hlength]

variable {α : Type} [DecidableEq α]

/-- The list without items. -/
def empty : UniqueList α := ⟨[], .nil⟩

instance : Inhabited (UniqueList α) := ⟨empty⟩

/-- The number of items. -/
def size (l : UniqueList α) : Nat := l.toList.length

/-- Whether there are no items. -/
def isEmpty (l : UniqueList α) : Bool := l.toList.isEmpty

/-- Whether an item is there. -/
def contains (l : UniqueList α) (x : α) : Bool := l.toList.contains x

/-- The item at a place. -/
def get? (l : UniqueList α) (i : Nat) : Option α := l.toList[i]?

/-- The place of an item. -/
def indexOf? (l : UniqueList α) (x : α) : Option Nat := l.toList.idxOf? x

/-- The list with an item at its end, if the item was not there. -/
def insert (l : UniqueList α) (x : α) : UniqueList α :=
  if h : x ∈ l.toList then l else ⟨l.toList ++ [x], nodup_append_of_notMem l.nodup h⟩

/-- The list with the items of a list behind its own, as far as they were not there. -/
def insertAll (l : UniqueList α) (xs : List α) : UniqueList α :=
  xs.foldl insert l

/-- The items of a list, each at its first place. -/
def ofList (xs : List α) : UniqueList α :=
  empty.insertAll xs

/-- Adds an item; an absent one, or one that was there, is refused. -/
def add (l : UniqueList α) : Option α → Bool × UniqueList α
  | some x => (!l.contains x, l.insert x)
  | none => (false, l)

/-- Removes an item; one that was not there is refused. -/
def remove (l : UniqueList α) (x : α) : Bool × UniqueList α :=
  (l.contains x, ⟨l.toList.erase x, l.nodup.erase x⟩)

/-- Takes out the item at a place, into which the last item moves. -/
def removeAt (l : UniqueList α) (i : Nat) : UniqueList α :=
  ⟨swapRemove l.toList i, nodup_swapRemove l.nodup i⟩

/-- Puts an item at a place: it is added behind the others, and then the item at the place is taken
out. A place that does not exist and an item that is at another place are refused. -/
def replace (l : UniqueList α) (i : Nat) (x : α) : Bool × UniqueList α :=
  if l.size ≤ i then (false, l)
  else
    match l.indexOf? x with
    | some j => (j == i, l)
    | none => (true, (l.insert x).removeAt i)

/-- Whether two lists have the same items, in whatever order. -/
def sameItems (l m : UniqueList α) : Bool :=
  l.size == m.size && l.toList.all m.contains

/-- The texts of a list with another text between them. -/
def joinWith (separator : String) (l : UniqueList String) : String :=
  String.intercalate separator l.toList

/-! ### The items after a change -/

/-- An item that is there is not added again. -/
theorem toList_insert (l : UniqueList α) (x : α) :
    (l.insert x).toList = if x ∈ l.toList then l.toList else l.toList ++ [x] := by
  unfold insert
  split <;> rfl

/-- Adding an item takes none away. -/
theorem mem_insert (l : UniqueList α) (x y : α) :
    y ∈ (l.insert x).toList ↔ y ∈ l.toList ∨ y = x := by
  rw [toList_insert]
  split
  · rename_i h
    exact ⟨Or.inl, fun hy => hy.elim id fun hyx => hyx ▸ h⟩
  · simp

/-- The items that were not there stand behind the others, in the order of their first places. -/
theorem toList_insertAll (l : UniqueList α) (xs : List α) :
    (l.insertAll xs).toList = l.toList ++ (xs.filter (· ∉ l.toList)).eraseDups := by
  induction xs generalizing l with
  | nil => simp [insertAll]
  | cons x xs ih =>
    have h := ih (l.insert x)
    simp only [insertAll, List.foldl_cons] at h ⊢
    rw [h, toList_insert]
    by_cases hx : x ∈ l.toList
    · simp [hx]
    · -- Behind a new item, the same item is one that was there.
      have hrest : xs.filter (· ∉ l.toList ++ [x])
          = (xs.filter (· ∉ l.toList)).filter (fun y => !y == x) := by
        rw [List.filter_filter]
        refine List.filter_congr fun y _ => ?_
        by_cases hy : y = x <;> simp [hy]
      rw [if_neg hx, hrest, List.filter_cons_of_pos (by simpa using hx), List.eraseDups_cons,
        List.append_assoc]
      rfl

/-- A list made of items has each at its first place. -/
theorem toList_ofList (xs : List α) : (ofList xs).toList = xs.eraseDups := by
  rw [ofList, toList_insertAll, List.filter_eq_self.mpr (by simp [empty])]
  rfl

/-- Removing an item leaves the others in order. -/
theorem toList_remove (l : UniqueList α) (x : α) :
    (l.remove x).2.toList = l.toList.erase x :=
  rfl

/-- Adding an item and taking out another is putting the new one in the place of the old one. -/
theorem toList_removeAt_insert {l : UniqueList α} {i : Nat} {x : α} (hi : i < l.size)
    (hx : x ∉ l.toList) : ((l.insert x).removeAt i).toList = l.toList.set i x := by
  show swapRemove (l.insert x).toList i = _
  rw [toList_insert, if_neg hx]
  exact swapRemove_append_singleton (Nat.lt_succ_of_lt hi) x

/-- An item has a place exactly if it is there. -/
theorem indexOf?_eq_none_iff {l : UniqueList α} {x : α} : l.indexOf? x = none ↔ x ∉ l.toList := by
  rw [indexOf?, List.idxOf?_eq_none_iff]

/-- An item is at one place only. -/
theorem indexOf?_eq_some_iff {l : UniqueList α} {x : α} {i : Nat} :
    l.indexOf? x = some i ↔ l.get? i = some x := by
  rw [indexOf?, get?, List.idxOf?_eq_some_iff, List.getElem?_eq_some_iff]
  constructor
  · rintro ⟨hi, hx, -⟩
    exact ⟨hi, hx⟩
  · rintro ⟨hi, hx⟩
    refine ⟨hi, hx, fun j hj hsame => ?_⟩
    have hplaces : l.toList[j]? = l.toList[i]? := by
      rw [List.getElem?_eq_getElem (Nat.lt_trans hj hi), List.getElem?_eq_getElem hi, hsame, hx]
    exact Nat.ne_of_lt hj ((List.getElem?_inj (Nat.lt_trans hj hi) l.nodup).mp hplaces)

/-- An item is put at a place that exists if it is nowhere else. -/
theorem fst_replace (l : UniqueList α) (i : Nat) (x : α) :
    (l.replace i x).1 = decide (i < l.size ∧ (x ∉ l.toList ∨ l.get? i = some x)) := by
  unfold replace
  by_cases hi : l.size ≤ i
  · rw [if_pos hi, decide_eq_false fun h => absurd hi (Nat.not_le_of_lt h.1)]
  · have hlt := Nat.lt_of_not_le hi
    rw [if_neg hi]
    cases hx : l.indexOf? x with
    | some j =>
      have hmem : x ∈ l.toList := List.mem_of_getElem? (indexOf?_eq_some_iff.mp hx)
      have hplace : j = i ↔ l.get? i = some x := by
        rw [← indexOf?_eq_some_iff, hx, Option.some.injEq]
      rw [Bool.eq_iff_iff]
      simp [hlt, hmem, hplace]
    | none =>
      have hnot := indexOf?_eq_none_iff.mp hx
      exact (decide_eq_true ⟨hlt, .inl hnot⟩).symm

/-- The item that is put at a place stands there, and the others are where they were. -/
theorem toList_replace (l : UniqueList α) (i : Nat) (x : α) :
    (l.replace i x).2.toList
      = if i < l.size ∧ x ∉ l.toList then l.toList.set i x else l.toList := by
  unfold replace
  by_cases hi : l.size ≤ i
  · rw [if_pos hi, if_neg fun h => absurd hi (Nat.not_le_of_lt h.1)]
  · have hlt := Nat.lt_of_not_le hi
    rw [if_neg hi]
    cases hx : l.indexOf? x with
    | some j =>
      have hmem : x ∈ l.toList := List.mem_of_getElem? (indexOf?_eq_some_iff.mp hx)
      exact (if_neg fun h => h.2 hmem).symm
    | none =>
      have hnot := indexOf?_eq_none_iff.mp hx
      rw [if_pos ⟨hlt, hnot⟩]
      exact toList_removeAt_insert hlt hnot

end UniqueList

end SqlSelect
