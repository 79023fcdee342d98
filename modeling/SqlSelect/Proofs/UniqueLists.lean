import SqlSelect.UniqueList

/-!
# `SqlSelect.Proofs.UniqueLists`: a unique list by the calls that made it

A `UniqueListCall` is one call that changes a unique list. `UniqueListCall.run` makes it, and
`UniqueListCall.plain` says what is to come of it on a list that knows nothing of repetitions: each
item is added, replaced or taken out where it stands.

* `UniqueListCall.run_eq`: one call answers and leaves behind what it does on a plain list.
* `transcript_map`: what holds of one call holds of many, one after the other.
* `UniqueList.transcript_eq_plain`: so a unique list is an ordered set after any calls.
-/

set_option autoImplicit false

namespace SqlSelect

/-- A call that changes a unique list. -/
inductive UniqueListCall (α : Type) where
  | add (item : Option α)
  | extend (items : List α)
  | replace (place : Nat) (item : α)
  | remove (item : α)
  | clear
  deriving DecidableEq, Repr

/-- The answers to some calls that are made one after the other, and the state that the last one
leaves behind. -/
def transcript {σ γ ρ : Type} (step : σ → γ → ρ × σ) (s : σ) : List γ → List ρ × σ
  | [] => ([], s)
  | call :: calls =>
    let later := transcript step (step s call).2 calls
    ((step s call).1 :: later.1, later.2)

/-- Where a view of the state takes each call to a call on what is seen, it takes all of them. -/
theorem transcript_map {σ τ γ ρ : Type} {step : σ → γ → ρ × σ} {seenStep : τ → γ → ρ × τ}
    (view : σ → τ) (h : ∀ s call, (step s call).map id view = seenStep (view s) call) (s : σ)
    (calls : List γ) :
    (transcript step s calls).map id view = transcript seenStep (view s) calls := by
  induction calls generalizing s with
  | nil => rfl
  | cons call calls ih =>
    have hcall := h s call
    have hlater := ih (step s call).2
    rw [transcript, transcript, ← hcall]
    dsimp only [Prod.map, id]
    rw [← hlater]
    rfl

namespace UniqueListCall

variable {α : Type} [DecidableEq α]

/-- Makes a call. Only some calls answer whether they did what they were asked for. -/
def run (l : UniqueList α) : UniqueListCall α → Option Bool × UniqueList α
  | add item => (l.add item).map some id
  | extend items => (none, l.insertAll items)
  | replace place item => (l.replace place item).map some id
  | remove item => (l.remove item).map some id
  | clear => (none, .empty)

/-- The items with one at the end that is not among them. -/
def withItem (xs : List α) (x : α) : List α :=
  if x ∈ xs then xs else xs ++ [x]

/-- What a call makes of a plain list. -/
def effect (xs : List α) : UniqueListCall α → List α
  | add none => xs
  | add (some item) => withItem xs item
  | extend items => items.foldl withItem xs
  | replace place item => if place < xs.length ∧ item ∉ xs then xs.set place item else xs
  | remove item => xs.filter (· ≠ item)
  | clear => []

/-- What a call answers on a plain list: whether an absent item is added, an item that is there is
removed, or an item is at the place that it is put at and nowhere else. -/
def answer (xs : List α) : UniqueListCall α → Option Bool
  | add none => some false
  | add (some item) => some (item ∉ xs)
  | extend _ => none
  | replace place item => some (place < xs.length ∧ (item ∉ xs ∨ xs[place]? = some item))
  | remove item => some (item ∈ xs)
  | clear => none

/-- A call on a plain list. -/
def plain (xs : List α) (call : UniqueListCall α) : Option Bool × List α :=
  (call.answer xs, call.effect xs)

/-! ### One call -/

variable (l : UniqueList α)

/-- Adding many items is adding one after the other, each if it is not there. -/
theorem toList_insertAll (items : List α) :
    (l.insertAll items).toList = items.foldl withItem l.toList := by
  induction items generalizing l with
  | nil => rfl
  | cons item items ih =>
    have hinsert : (l.insert item).toList = withItem l.toList item := l.toList_insert item
    rw [List.foldl_cons, ← hinsert, ← ih]
    rfl

/-- Each call leaves the items behind that it leaves of a plain list. -/
theorem toList_run (call : UniqueListCall α) : (call.run l).2.toList = call.effect l.toList := by
  cases call with
  | add item =>
    cases item with
    | none => rfl
    | some item => exact l.toList_insert item
  | extend items => exact toList_insertAll l items
  | replace place item => exact l.toList_replace place item
  | remove item =>
    -- There is only one place where the item can be.
    refine (l.toList_remove item).trans ?_
    rw [effect, l.nodup.erase_eq_filter]
    exact List.filter_congr fun x _ => by rw [Bool.eq_iff_iff]; simp
  | clear => rfl

/-- A call answers from the plain items alone. Replacing is the case with something to show, as it
adds the new item before it takes out the old one. -/
theorem fst_run (call : UniqueListCall α) : (call.run l).1 = call.answer l.toList := by
  have hcontains : ∀ x, l.contains x = decide (x ∈ l.toList) := fun x =>
    List.contains_eq_mem x l.toList
  cases call with
  | add item =>
    cases item with
    | none => rfl
    | some item =>
      show some (!l.contains item) = some (decide (item ∉ l.toList))
      rw [hcontains, decide_not]
  | extend items => rfl
  | replace place item => exact congrArg some (l.fst_replace place item)
  | remove item => exact congrArg some (hcontains item)
  | clear => rfl

/-- One call, with its answer, does to a unique list what it does to its plain items. -/
theorem run_eq (call : UniqueListCall α) :
    (call.run l).map id UniqueList.toList = call.plain l.toList :=
  Prod.ext (fst_run l call) (toList_run l call)

end UniqueListCall

/-! ### Many calls -/

/-- Whatever calls are made, from the list without items on, a unique list answers each of them like
a plain list and has the items that the plain list has in the end: an absent item is added behind
the others, an item is removed without another one being moved, and an item is replaced where it
stands. These items are distinct. -/
theorem UniqueList.transcript_eq_plain {α : Type} [DecidableEq α]
    (calls : List (UniqueListCall α)) :
    (transcript UniqueListCall.run empty calls).map id toList
        = transcript UniqueListCall.plain [] calls ∧
      (transcript UniqueListCall.plain ([] : List α) calls).2.Nodup := by
  have hsame : (transcript UniqueListCall.run empty calls).map id toList
      = transcript UniqueListCall.plain ([] : List α) calls :=
    transcript_map toList UniqueListCall.run_eq empty calls
  refine ⟨hsame, ?_⟩
  have hitems := congrArg Prod.snd hsame
  exact hitems ▸ nodup _

/-- The last of two items, and an only item, are replaced where they stand. -/
example : (transcript UniqueListCall.run (UniqueList.empty : UniqueList String)
    [.extend ["x", "y"], .replace 1 "z", .replace 0 "z", .remove "x", .replace 0 "w"]).map id
      UniqueList.toList = ([none, some true, some false, some true, some true], ["w"]) := by
  decide

end SqlSelect
