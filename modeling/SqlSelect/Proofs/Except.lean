import Mathlib.Data.List.Forall2

/-!
# `SqlSelect.Proofs.Except`: results that may be errors

The functions of the library that can fail return `Except`. The simp lemmas below run such a
function on a given result.

* `except_map_eq_ok_iff`, `except_bind_eq_ok_iff`: what is known of the parts of a result.
* `mapM_eq_ok_iff`, `forM_eq_ok_iff`: a function succeeds on a list exactly if it does on each item.
* `errorOf?_bind`, `errorOf?_mapM`, `errorOf?_foldlM`: which error a result is.
* `SameResult`: two runs fail with one error, or have related results.
-/

set_option autoImplicit false

namespace SqlSelect

variable {ε α β : Type}

@[simp] theorem except_pure (a : α) : (pure a : Except ε α) = .ok a := rfl

@[simp] theorem except_bind_ok (a : α) (f : α → Except ε β) : (Except.ok a >>= f) = f a := rfl

@[simp] theorem except_bind_error (e : ε) (f : α → Except ε β) :
    (Except.error e >>= f) = .error e :=
  rfl

@[simp] theorem except_functor_map_ok (f : α → β) (a : α) :
    f <$> (Except.ok a : Except ε α) = .ok (f a) :=
  rfl

@[simp] theorem except_functor_map_error (f : α → β) (e : ε) :
    f <$> (Except.error e : Except ε α) = .error e :=
  rfl

/-- A changed result is a success exactly if the result was one, and its value is the changed one.
-/
theorem except_map_eq_ok_iff {x : Except ε α} {f : α → β} {b : β} :
    x.map f = .ok b ↔ ∃ a, x = .ok a ∧ f a = b := by
  cases x <;> simp [Except.map]

/-- Two steps succeed exactly if the first one does and the second one does on its value. This takes
the functions of the library apart without unfolding them. -/
theorem except_bind_eq_ok_iff {x : Except ε α} {f : α → Except ε β} {b : β} :
    x.bind f = .ok b ↔ ∃ a, x = .ok a ∧ f a = .ok b := by
  cases x <;> simp [Except.bind]

/-- A function succeeds on a list exactly if it succeeds on each item, and then the results stand
in the places of the items. -/
theorem mapM_eq_ok_iff {f : α → Except ε β} {xs : List α} {ys : List β} :
    xs.mapM f = .ok ys ↔ List.Forall₂ (fun x y => f x = .ok y) xs ys := by
  induction xs generalizing ys with
  | nil => cases ys <;> simp
  | cons x xs ih =>
    rw [List.mapM_cons, List.forall₂_cons_left_iff]
    constructor
    · intro h
      obtain ⟨y, hy, h⟩ := except_bind_eq_ok_iff.mp h
      obtain ⟨rest, hrest, h⟩ := except_bind_eq_ok_iff.mp h
      cases h
      exact ⟨y, rest, hy, ih.mp hrest, rfl⟩
    · rintro ⟨y, rest, hy, hrest, rfl⟩
      rw [hy, except_bind_ok, ih.mpr hrest]
      rfl

/-- A check succeeds on a list exactly if it succeeds on each item. -/
theorem forM_eq_ok_iff {f : α → Except ε Unit} {xs : List α} :
    xs.forM f = .ok () ↔ ∀ x ∈ xs, f x = .ok () := by
  induction xs with
  | nil => exact iff_of_true rfl (by simp)
  | cons x xs ih =>
    rw [List.forall_mem_cons, ← ih]
    show (f x >>= fun _ => xs.forM f) = .ok () ↔ _
    cases f x with
    | error e => exact iff_of_false (fun h => by cases h) (fun h => by cases h.1)
    | ok checked => exact ⟨fun h => ⟨rfl, h⟩, fun h => h.2⟩

/-- Where a function has no choice but to return `g` of an item, the results are these. -/
theorem eq_map_of_mapM {f : α → Except ε β} {g : α → β} (hfg : ∀ x y, f x = .ok y → y = g x)
    {xs : List α} {ys : List β} (h : xs.mapM f = .ok ys) : ys = xs.map g := by
  have hpairs := mapM_eq_ok_iff.mp h
  clear h
  induction hpairs with
  | nil => rfl
  | cons hfirst _ ih => rw [List.map_cons, hfg _ _ hfirst, ih]

/-- An item of a list is related to one of the other list. -/
theorem exists_rel_of_mem {R : α → β → Prop} {xs : List α} {ys : List β}
    (h : List.Forall₂ R xs ys) {y : β} (hy : y ∈ ys) : ∃ x ∈ xs, R x y := by
  induction h with
  | nil => simp at hy
  | cons hfirst _ ih =>
    rcases List.mem_cons.mp hy with rfl | hy
    · exact ⟨_, List.mem_cons_self, hfirst⟩
    · obtain ⟨x, hx, hxy⟩ := ih hy
      exact ⟨x, List.mem_cons_of_mem _ hx, hxy⟩

/-! ### Errors -/

/-- The error that a result is, if it is one. -/
def errorOf? : Except ε α → Option ε
  | .error e => some e
  | .ok _ => none

/-- There is an error to be read off exactly where the result is this error. -/
theorem errorOf?_eq_some_iff {x : Except ε α} {e : ε} : errorOf? x = some e ↔ x = .error e := by
  cases x <;> simp [errorOf?]

/-- There is no error exactly where there is a value. -/
theorem errorOf?_eq_none_iff {x : Except ε α} : errorOf? x = none ↔ ∃ a, x = .ok a := by
  cases x <;> simp [errorOf?]

/-- Changing the value of a result leaves its error as it is. -/
@[simp] theorem errorOf?_map (x : Except ε α) (f : α → β) : errorOf? (x.map f) = errorOf? x := by
  cases x <;> rfl

/-- What is carried on fails by itself or later. -/
theorem errorOf?_bind (x : Except ε α) {f : α → Except ε β} {later : Option ε}
    (h : ∀ a, errorOf? (f a) = later) : errorOf? (x >>= f) = (errorOf? x).or later := by
  cases x with
  | error e => rfl
  | ok a => exact h a

/-- A last step that cannot fail adds no error. -/
theorem errorOf?_bind_pure (x : Except ε α) (f : α → β) :
    errorOf? (x >>= fun a => pure (f a)) = errorOf? x := by
  cases x <;> rfl

/-- On a list the first item that fails decides. -/
theorem errorOf?_mapM (f : α → Except ε β) (xs : List α) :
    errorOf? (xs.mapM f) = xs.findSome? fun x => errorOf? (f x) := by
  induction xs with
  | nil => rfl
  | cons x xs ih =>
    have hrest : ∀ y, errorOf? (xs.mapM f >>= fun ys => pure (y :: ys))
        = xs.findSome? fun x => errorOf? (f x) := by
      intro y
      rw [errorOf?_bind_pure, ih]
    rw [List.mapM_cons, errorOf?_bind _ hrest, List.findSome?_cons]
    cases errorOf? (f x) <;> rfl

/-- From item to item of a list, the first item that fails decides, where what an item fails by does
not depend on what it is met with. -/
theorem errorOf?_foldlM {f : β → α → Except ε β} {fault : α → Option ε}
    (hf : ∀ b a, errorOf? (f b a) = fault a) (xs : List α) (b : β) :
    errorOf? (xs.foldlM f b) = xs.findSome? fault := by
  induction xs generalizing b with
  | nil => rfl
  | cons x xs ih =>
    rw [List.foldlM_cons, errorOf?_bind _ ih, hf, List.findSome?_cons]
    cases fault x <;> rfl

/-! ### Two runs -/

variable {γ δ : Type}

/-- Two results that are the same error, or related. -/
inductive SameResult (R : α → β → Prop) : Except ε α → Except ε β → Prop
  | error (e : ε) : SameResult R (.error e) (.error e)
  | ok {a : α} {b : β} (h : R a b) : SameResult R (.ok a) (.ok b)

/-- Related results are carried on in related ways. -/
theorem SameResult.bind {R : α → β → Prop} {S : γ → δ → Prop} {x : Except ε α} {y : Except ε β}
    (h : SameResult R x y) {f : α → Except ε γ} {g : β → Except ε δ}
    (hfg : ∀ a b, R a b → SameResult S (f a) (g b)) : SameResult S (x >>= f) (y >>= g) := by
  cases h with
  | error e => exact .error e
  | ok h => exact hfg _ _ h

/-- Related values that are changed by two functions stay related if the functions keep them so, and
an error stays what it is. -/
theorem SameResult.map {R : α → β → Prop} {S : γ → δ → Prop} {x : Except ε α} {y : Except ε β}
    (h : SameResult R x y) {f : α → γ} {g : β → δ} (hfg : ∀ a b, R a b → S (f a) (g b)) :
    SameResult S (x.map f) (y.map g) := by
  cases h with
  | error e => exact .error e
  | ok h => exact .ok (hfg _ _ h)

/-- Over two lists, the first items whose results are errors are in the same place. -/
theorem SameResult.mapM {R : β → γ → Prop} {S : α → δ → Prop} {f : α → Except ε β}
    {g : δ → Except ε γ} (hfg : ∀ a d, S a d → SameResult R (f a) (g d)) {xs : List α}
    {ys : List δ} (h : List.Forall₂ S xs ys) :
    SameResult (List.Forall₂ R) (xs.mapM f) (ys.mapM g) := by
  induction h with
  | nil => exact .ok .nil
  | cons hfirst _ ih =>
    rw [List.mapM_cons, List.mapM_cons]
    refine (hfg _ _ hfirst).bind fun b c hbc => ?_
    exact ih.bind fun bs cs hrest => .ok (.cons hbc hrest)

end SqlSelect
