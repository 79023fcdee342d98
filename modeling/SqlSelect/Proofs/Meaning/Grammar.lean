import Mathlib.Data.List.Basic
import SqlSelect.Proofs.Meaning.Truth

/-!
# `SqlSelect.Proofs.Meaning.Grammar`: reading a condition

`Reads` is the grammar by which a database reads the text of a condition: AND binds tighter than OR,
and parentheses group. The texts of the comparisons are the atoms of the grammar. They are given
from left to right, and whatever stands in them belongs to them.

A chain of one conjunction is read from the right here. Its value does not depend on that
(`Conjunction.combine_assoc`).

* `Reads.unique_of_spelled`: two readings agree if their atoms are spelled by the same parts.
* `Reads.unique`: a text has at most one reading.
* `Reads.joined_append`: two texts with a conjunction between them are read as one, if each may
  stand beside it without parentheses.
-/

set_option autoImplicit false

namespace SqlSelect

/-- A condition as it is read; an atom is given by its place. -/
inductive Formula where
  | atom (i : Nat)
  | joined (conjunction : Conjunction) (f g : Formula)

/-- The value of a formula by the values of its atoms. -/
def Formula.value (ρ : Nat → Truth) : Formula → Truth
  | atom i => ρ i
  | joined conjunction f g => conjunction.combine (f.value ρ) (g.value ρ)

/-- Which words may stand in a text outside of parentheses. -/
inductive Level where
  /-- None. -/
  | primary
  /-- The word of the chain, and those that bind tighter. -/
  | chain (conjunction : Conjunction)
  deriving DecidableEq

/-- The words of a level. -/
def Level.words : Level → List Conjunction
  | primary => []
  | chain .and => [.and]
  | chain .or => [.and, .or]

/-- The level of the items of a chain: AND binds tighter than OR. -/
def Conjunction.itemLevel : Conjunction → Level
  | and => .primary
  | or => .chain .and

/-- A text is read as a formula on a level. The atoms in it are given from left to right, and
counted from `start`. -/
inductive Reads : Level → Nat → List String → String → Formula → Prop
  | atom (start : Nat) (a : String) : Reads .primary start [a] a (.atom start)
  | parenthesized {start : Nat} {atoms : List String} {text : String} {f : Formula}
      (h : Reads (.chain .or) start atoms text f) :
      Reads .primary start atoms ("(" ++ text ++ ")") f
  | item (conjunction : Conjunction) {start : Nat} {atoms : List String} {text : String}
      {f : Formula} (h : Reads conjunction.itemLevel start atoms text f) :
      Reads (.chain conjunction) start atoms text f
  | joined (conjunction : Conjunction) {start : Nat} {as bs : List String} {t u : String}
      {f g : Formula} (hf : Reads conjunction.itemLevel start as t f)
      (hg : Reads (.chain conjunction) (start + as.length) bs u g) :
      Reads (.chain conjunction) start (as ++ bs) (t ++ conjunction.sql ++ u)
        (.joined conjunction f g)

/-! ### Where a text starts -/

/-- A text starts with opening parentheses and its first atom, and no further parenthesis follows
them. -/
def StartsWithAtom (atoms : List String) (text : String) : Prop :=
  ∃ (n : Nat) (a : String) (rest : List Char), atoms.head? = some a ∧
    text.toList = List.replicate n '(' ++ a.toList ++ rest ∧ rest.head? ≠ some '('

/-- A word of a conjunction does not start with a parenthesis. -/
theorem head?_sql_append_ne (conjunction : Conjunction) (rest : List Char) :
    (conjunction.sql.toList ++ rest).head? ≠ some '(' := by
  cases conjunction <;> simp [Conjunction.sql]

/-- What is joined to a text behind it does not change how the text starts. -/
theorem StartsWithAtom.joined {as : List String} {t : String} (h : StartsWithAtom as t)
    (bs : List String) (conjunction : Conjunction) (u : String) :
    StartsWithAtom (as ++ bs) (t ++ conjunction.sql ++ u) := by
  obtain ⟨n, a, rest, hatoms, htext, hrest⟩ := h
  refine ⟨n, a, rest ++ (conjunction.sql.toList ++ u.toList), ?_, ?_, ?_⟩
  · rw [List.head?_append, hatoms]
    rfl
  · simp [htext]
  · cases rest with
    | nil => exact head?_sql_append_ne conjunction u.toList
    | cons c rest => exact hrest

/-- A text that can be read starts with its first atom, behind some parentheses. -/
theorem Reads.startsWithAtom {level : Level} {start : Nat} {atoms : List String} {text : String}
    {f : Formula} (h : Reads level start atoms text f) : StartsWithAtom atoms text := by
  induction h with
  | atom start a => exact ⟨0, a, [], rfl, by simp, by simp⟩
  | parenthesized _ ih =>
    obtain ⟨n, a, rest, hatoms, htext, hrest⟩ := ih
    refine ⟨n + 1, a, rest ++ [')'], hatoms, ?_, ?_⟩
    · simp [htext, List.replicate_succ]
    · cases rest with
      | nil => simp
      | cons c rest => exact hrest
  | item _ _ ih => exact ih
  | joined conjunction _ _ ihf _ => exact ihf.joined _ conjunction _

/-! ### One reading -/

/-- What may follow a text on a level, so that the text does not go on: no opening parenthesis, and
none of the words of the level. -/
def Level.Stops (level : Level) (rest : List Char) : Prop :=
  rest.head? ≠ some '(' ∧ ∀ word ∈ level.words, ¬ word.sql.toList <+: rest

/-- The number of opening parentheses in front of a text. -/
def openings (cs : List Char) : Nat :=
  (cs.takeWhile (· == '(')).length

/-- What follows a text adds no opening parenthesis to those it starts with. -/
theorem openings_append_of_head?_ne {rest : List Char} (h : rest.head? ≠ some '(')
    (cs : List Char) : openings (cs ++ rest) = openings cs := by
  induction cs with
  | nil =>
    cases rest with
    | nil => rfl
    | cons c rest =>
      have hc : c ≠ '(' := by simpa using h
      simp [openings, hc]
  | cons c cs ih =>
    unfold openings at ih ⊢
    by_cases hc : c = '('
    · simp [hc, ih]
    · simp [hc]

/-- Parentheses in front of a text count on top of its own. -/
theorem openings_replicate_append (n : Nat) (cs : List Char) :
    openings (List.replicate n '(' ++ cs) = n + openings cs := by
  induction n with
  | zero => simp
  | succ n ih =>
    unfold openings at ih ⊢
    simp only [List.replicate_succ, List.cons_append, List.takeWhile_cons, beq_self_eq_true,
      if_true, List.length_cons, ih]
    omega

/-- An atom is not a text in parentheses that starts with the same atom: there is one more
parenthesis in front. -/
theorem atom_ne_parenthesized {a text : String} {atoms : List String} {r r' : List Char}
    (hatoms : atoms.head? = some a) (htext : StartsWithAtom atoms text)
    (hr : r.head? ≠ some '(') :
    a.toList ++ r ≠ ("(" ++ text ++ ")").toList ++ r' := by
  intro heq
  obtain ⟨n, b, rest, hb, htext, hrest⟩ := htext
  rw [hatoms] at hb
  cases hb
  have hopenings := congrArg openings heq
  have hparens : ("(" ++ text ++ ")").toList ++ r'
      = List.replicate (n + 1) '(' ++ (a.toList ++ (rest ++ (')' :: r'))) := by
    simp [htext, List.replicate_succ]
  have hclosed : (rest ++ (')' :: r')).head? ≠ some '(' := by
    cases rest with
    | nil => simp
    | cons c rest => exact hrest
  -- The atom has its own parentheses in front on both sides, and `n + 1` more on the right.
  rw [openings_append_of_head?_ne hr, hparens, openings_replicate_append,
    openings_append_of_head?_ne hclosed] at hopenings
  omega

/-- The first of some atoms, when more atoms follow. -/
theorem StartsWithAtom.head?_eq {atoms as bs bs' : List String} {text a : String}
    (h : StartsWithAtom atoms text) (heq : (a :: as) ++ bs' = atoms ++ bs) :
    atoms.head? = some a := by
  obtain ⟨n, b, rest, hatoms, -, -⟩ := h
  have hhead := congrArg List.head? heq
  rw [List.head?_append, List.head?_append, hatoms] at hhead
  exact hatoms.trans hhead.symm

/-- What ends a chain ends its last item. -/
theorem stops_itemLevel_of_stops {conjunction : Conjunction} {rest : List Char}
    (h : (Level.chain conjunction).Stops rest) : conjunction.itemLevel.Stops rest := by
  refine ⟨h.1, fun word hword => h.2 word ?_⟩
  cases conjunction <;> simp_all [Conjunction.itemLevel, Level.words]

/-- The word of a chain ends an item of it. -/
theorem stops_itemLevel_of_word (conjunction : Conjunction) (rest : List Char) :
    conjunction.itemLevel.Stops (conjunction.sql.toList ++ rest) := by
  refine ⟨head?_sql_append_ne conjunction rest, fun word hword => ?_⟩
  cases conjunction with
  | and => cases hword
  | or =>
    rw [List.mem_singleton.mp hword]
    simp [Conjunction.sql]

/-- A chain goes on with its word. -/
theorem not_stops_of_word (conjunction : Conjunction) (rest : List Char) :
    ¬ (Level.chain conjunction).Stops (conjunction.sql.toList ++ rest) := by
  intro h
  have hword : conjunction ∈ (Level.chain conjunction).words := by
    cases conjunction <;> simp [Level.words]
  exact h.2 conjunction hword ⟨rest, rfl⟩

/-- A closing parenthesis ends everything. -/
theorem stops_of_closing (level : Level) (rest : List Char) : level.Stops (')' :: rest) := by
  refine ⟨by simp, fun word _ => ?_⟩
  cases word <;> simp [Conjunction.sql]

/-- The end of the text stops a chain of either conjunction. -/
theorem stops_nil (level : Level) : level.Stops [] := by
  refine ⟨by simp, fun word _ => ?_⟩
  cases word <;> simp [Conjunction.sql]

/-- The characters of two texts with a conjunction between them, cut in front of the conjunction. -/
theorem toList_joined_append (t u : String) (conjunction : Conjunction) (r : List Char) :
    (t ++ conjunction.sql ++ u).toList ++ r
      = t.toList ++ (conjunction.sql.toList ++ (u.toList ++ r)) := by
  simp

/-- The characters of a text between parentheses, cut behind the opening one. -/
theorem toList_parenthesized_append (t : String) (r : List Char) :
    ("(" ++ t ++ ")").toList ++ r = '(' :: (t.toList ++ (')' :: r)) := by
  simp

/-! ### Atoms that are spelled by parts -/

/-- Atoms with their meanings, each spelled by parts. The parts of all of them are given from left
to right. -/
inductive Spelled {β γ : Type} (S : List β → String → γ → Prop) :
    List β → List String → List γ → Prop
  | nil : Spelled S [] [] []
  | cons {parts rest : List β} {a : String} {as : List String} {m : γ} {ms : List γ}
      (h : S parts a m) (hrest : Spelled S rest as ms) :
      Spelled S (parts ++ rest) (a :: as) (m :: ms)

/-- Parts spell one atom, no matter what stands behind them. An atom starts with its first part, and
no parenthesis follows that part. -/
structure Unambiguous {β γ : Type} (name : β → String) (S : List β → String → γ → Prop) : Prop where
  starts : ∀ {parts : List β} {a : String} {m : γ}, S parts a m →
    ∃ first rest tail, parts = first :: rest ∧ a = name first ++ tail ∧
      tail.toList.head? ≠ some '('
  unique : ∀ {parts parts' qs qs' : List β} {a a' : String} {m m' : γ} {r r' : List Char},
    S parts a m → S parts' a' m' → parts ++ qs = parts' ++ qs' → a.toList ++ r = a'.toList ++ r' →
    parts = parts' ∧ a = a' ∧ m = m'

section

variable {β γ : Type} {name : β → String} {S : List β → String → γ → Prop} {parts : List β}
  {ms : List γ}

/-- One atom is spelled by all the parts. -/
theorem Spelled.singleton_inv {a : String} (h : Spelled S parts [a] ms) :
    ∃ m, ms = [m] ∧ S parts a m := by
  cases h with
  | cons h hrest =>
    cases hrest
    rw [List.append_nil]
    exact ⟨_, rfl, h⟩

/-- The parts of some atoms and those of others behind them. -/
theorem Spelled.append_inv {as bs : List String} (h : Spelled S parts (as ++ bs) ms) :
    ∃ ps qs ks ls, parts = ps ++ qs ∧ ms = ks ++ ls ∧ Spelled S ps as ks ∧ Spelled S qs bs ls := by
  induction as generalizing parts ms with
  | nil => exact ⟨[], parts, [], ms, rfl, rfl, .nil, h⟩
  | cons a as ih =>
    cases h with
    | cons h hrest =>
      obtain ⟨ps, qs, ks, ls, rfl, rfl, hps, hqs⟩ := ih hrest
      exact ⟨_, qs, _, ls, (List.append_assoc ..).symm, rfl, .cons h hps, hqs⟩

/-- A text that starts with its first atom starts with the first part. -/
theorem StartsWithAtom.of_spelled (hS : Unambiguous name S) {atoms : List String} {text : String}
    (h : StartsWithAtom atoms text) (hspelled : Spelled S parts atoms ms) :
    StartsWithAtom (parts.map name) text := by
  obtain ⟨n, a, rest, hatoms, htext, hrest⟩ := h
  cases hspelled with
  | nil => cases hatoms
  | cons h _ =>
    cases hatoms
    obtain ⟨first, _, tail, rfl, rfl, htail⟩ := hS.starts h
    refine ⟨n, name first, tail.toList ++ rest, rfl, ?_, ?_⟩
    · simp [htext]
    · cases htailList : tail.toList with
      | nil => exact hrest
      | cons c cs => rwa [htailList] at htail

/-- An atom is not a text in parentheses that starts with the same part. -/
theorem spelled_ne_parenthesized (hS : Unambiguous name S) {a text : String} {m : γ}
    {atoms : List String} {parts' qs qs' : List β} {ms' : List γ} {r r' : List Char}
    (h : S parts a m) (hstart : StartsWithAtom atoms text) (hspelled : Spelled S parts' atoms ms')
    (hparts : parts ++ qs = parts' ++ qs') (hr : r.head? ≠ some '(') :
    a.toList ++ r ≠ ("(" ++ text ++ ")").toList ++ r' := by
  obtain ⟨first, rest, tail, rfl, rfl, htail⟩ := hS.starts h
  have hnames := congrArg (List.map name) hparts
  rw [List.map_append, List.map_append] at hnames
  have hstart' := hstart.of_spelled hS hspelled
  have hr' : (tail.toList ++ r).head? ≠ some '(' := by
    cases htailList : tail.toList with
    | nil => exact hr
    | cons c cs => rwa [htailList] at htail
  rw [String.toList_append, List.append_assoc]
  exact atom_ne_parenthesized (hstart'.head?_eq hnames) hstart' hr'

/-- Two readings of texts that go on differently agree, as long as neither text may go on. -/
theorem Reads.unique_of_spelled (hS : Unambiguous name S) {level : Level} {start : Nat}
    {as : List String} {t : String} {f : Formula} (h : Reads level start as t f) :
    ∀ {as' : List String} {t' : String} {f' : Formula} {parts parts' qs qs' : List β}
      {ms ms' : List γ} {r r' : List Char},
      Reads level start as' t' f' → Spelled S parts as ms → Spelled S parts' as' ms' →
      parts ++ qs = parts' ++ qs' → t.toList ++ r = t'.toList ++ r' →
      level.Stops r → level.Stops r' →
      parts = parts' ∧ as = as' ∧ ms = ms' ∧ t = t' ∧ f = f' := by
  -- The texts may go on with `r` and `r'`, as the first item of a chain does with the rest of it.
  induction h with
  | atom start a =>
    intro as' t' f' parts parts' qs qs' ms ms' r r' h' hs hs' hparts htext hr hr'
    obtain ⟨m, rfl, hm⟩ := hs.singleton_inv
    cases h' with
    | atom =>
      obtain ⟨m', rfl, hm'⟩ := hs'.singleton_inv
      obtain ⟨rfl, rfl, rfl⟩ := hS.unique hm hm' hparts htext
      exact ⟨rfl, rfl, rfl, rfl, rfl⟩
    | parenthesized h' =>
      -- The second text would have one more parenthesis in front of the same part.
      exact absurd htext (spelled_ne_parenthesized hS hm h'.startsWithAtom hs' hparts hr.1)
  | @parenthesized start as t f h ih =>
    intro as' t' f' parts parts' qs qs' ms ms' r r' h' hs hs' hparts htext hr hr'
    cases h' with
    | atom =>
      obtain ⟨m', rfl, hm'⟩ := hs'.singleton_inv
      exact absurd htext.symm
        (spelled_ne_parenthesized hS hm' h.startsWithAtom hs hparts.symm hr'.1)
    | parenthesized h' =>
      -- Behind the first parenthesis the texts between the parentheses end at the closing one.
      rw [toList_parenthesized_append, toList_parenthesized_append] at htext
      obtain ⟨hps, has, hms, ht, hf⟩ := ih h' hs hs' hparts (List.cons.inj htext).2
        (stops_of_closing _ _) (stops_of_closing _ _)
      rw [ht]
      exact ⟨hps, has, hms, rfl, hf⟩
  | item conjunction h ih =>
    intro as' t' f' parts parts' qs qs' ms ms' r r' h' hs hs' hparts htext hr hr'
    cases h' with
    | item _ h' =>
      exact ih h' hs hs' hparts htext (stops_itemLevel_of_stops hr) (stops_itemLevel_of_stops hr')
    | joined _ hf' hg' =>
      -- The first text would have to go on with the word of the chain.
      rw [toList_joined_append] at htext
      obtain ⟨ps', _, _, _, rfl, -, hps', -⟩ := hs'.append_inv
      rw [List.append_assoc] at hparts
      obtain ⟨-, -, -, ht, -⟩ := ih hf' hs hps' hparts htext (stops_itemLevel_of_stops hr)
        (stops_itemLevel_of_word conjunction _)
      rw [ht] at htext
      rw [List.append_cancel_left htext] at hr
      exact absurd hr (not_stops_of_word conjunction _)
  | joined conjunction hf hg ihf ihg =>
    intro as' t' f' parts parts' qs qs' ms ms' r r' h' hs hs' hparts htext hr hr'
    rw [toList_joined_append] at htext
    obtain ⟨ps, _, ks, _, rfl, rfl, hps, hrest⟩ := hs.append_inv
    rw [List.append_assoc] at hparts
    cases h' with
    | item _ h' =>
      -- The second text would have to go on with the word of the chain.
      obtain ⟨-, -, -, ht, -⟩ := ihf h' hps hs' hparts htext (stops_itemLevel_of_word conjunction _)
        (stops_itemLevel_of_stops hr')
      rw [ht] at htext
      rw [← List.append_cancel_left htext] at hr'
      exact absurd hr' (not_stops_of_word conjunction _)
    | joined _ hf' hg' =>
      rw [toList_joined_append] at htext
      obtain ⟨ps', _, ks', _, rfl, rfl, hps', hrest'⟩ := hs'.append_inv
      rw [List.append_assoc] at hparts
      obtain ⟨rfl, rfl, rfl, rfl, rfl⟩ := ihf hf' hps hps' hparts htext
        (stops_itemLevel_of_word conjunction _) (stops_itemLevel_of_word conjunction _)
      -- Behind the same first item the two texts go on with the same word.
      have htexts := List.append_cancel_left (List.append_cancel_left htext)
      obtain ⟨rfl, rfl, rfl, rfl, rfl⟩ := ihg hg' hrest hrest' (List.append_cancel_left hparts)
        htexts hr hr'
      exact ⟨rfl, rfl, rfl, rfl, rfl⟩

end

/-- An atom with itself as its only part. -/
def Opaque (parts : List String) (a : String) (_ : Unit) : Prop :=
  parts = [a]

/-- An atom that is a part by itself can be spelled in one way only. -/
theorem unambiguous_opaque : Unambiguous id Opaque where
  starts h := ⟨_, [], "", h, (String.append_empty).symm, by simp⟩
  unique h h' hparts _ := by
    rw [h, h'] at hparts ⊢
    have hsame := (List.cons.inj hparts).1
    rw [hsame]
    exact ⟨rfl, rfl, rfl⟩

/-- Atoms that are parts by themselves are always spelled. -/
theorem exists_spelled_opaque (atoms : List String) : ∃ ms, Spelled Opaque atoms atoms ms := by
  induction atoms with
  | nil => exact ⟨[], .nil⟩
  | cons a atoms ih =>
    obtain ⟨ms, hms⟩ := ih
    have ha : Opaque [a] a () := rfl
    exact ⟨() :: ms, .cons ha hms⟩

/-- Two readings of texts that go on differently agree, as long as neither text may go on and the
atoms are the same. -/
theorem Reads.unique_of_rest {level : Level} {start : Nat} {as as' : List String} {t t' : String}
    {f f' : Formula} {bs bs' : List String} {r r' : List Char} (h : Reads level start as t f)
    (h' : Reads level start as' t' f') (hatoms : as ++ bs = as' ++ bs')
    (htext : t.toList ++ r = t'.toList ++ r') (hr : level.Stops r) (hr' : level.Stops r') :
    as = as' ∧ t = t' ∧ f = f' := by
  obtain ⟨ms, hms⟩ := exists_spelled_opaque as
  obtain ⟨ms', hms'⟩ := exists_spelled_opaque as'
  obtain ⟨has, -, -, ht, hf⟩ :=
    h.unique_of_spelled unambiguous_opaque h' hms hms' hatoms htext hr hr'
  exact ⟨has, ht, hf⟩

/-- A text has at most one reading. -/
theorem Reads.unique {level : Level} {start : Nat} {atoms : List String} {text : String}
    {f g : Formula} (hf : Reads level start atoms text f) (hg : Reads level start atoms text g) :
    f = g := by
  have hatoms : atoms ++ [] = atoms ++ [] := rfl
  have htext : text.toList ++ [] = text.toList ++ [] := rfl
  exact (hf.unique_of_rest hg hatoms htext (stops_nil level) (stops_nil level)).2.2

/-! ### Joining texts -/

namespace Reads

variable {start : Nat} {as bs : List String} {t u : String} {f g : Formula}

/-- A chain may be continued by a chain of the same conjunction. -/
theorem joined_append (conjunction : Conjunction) (hf : Reads (.chain conjunction) start as t f)
    (hg : Reads (.chain conjunction) (start + as.length) bs u g) :
    ∃ h, Reads (.chain conjunction) start (as ++ bs) (t ++ conjunction.sql ++ u) h ∧
      ∀ ρ, h.value ρ = conjunction.combine (f.value ρ) (g.value ρ) := by
  generalize hlevel : Level.chain conjunction = level at hf
  induction hf with
  | atom | parenthesized => cases hlevel
  | item _ hf =>
    cases hlevel
    exact ⟨.joined conjunction _ g, .joined conjunction hf hg, fun ρ => rfl⟩
  | @joined _ start as₁ as₂ t₁ t₂ f₁ f₂ hf₁ hf₂ _ ih =>
    cases hlevel
    -- The chain is read from the right, so what follows goes to its end.
    rw [List.length_append, ← Nat.add_assoc] at hg
    obtain ⟨h, hh, hvalue⟩ := ih hg rfl
    refine ⟨.joined conjunction f₁ h, ?_, fun ρ => ?_⟩
    · have hread := Reads.joined conjunction hf₁ hh
      rwa [← List.append_assoc, ← String.append_assoc, ← String.append_assoc] at hread
    · rw [Formula.value, hvalue, Formula.value, Conjunction.combine_assoc]

/-- A text without a word outside of parentheses may stand anywhere. -/
theorem of_primary (hf : Reads .primary start as t f) (level : Level) :
    Reads level start as t f := by
  have hand : Reads (.chain .and) start as t f := .item .and hf
  match level with
  | .primary => exact hf
  | .chain .and => exact hand
  | .chain .or => exact .item .or hand

/-- A chain may stand where OR may. -/
theorem of_chain {conjunction : Conjunction} (hf : Reads (.chain conjunction) start as t f) :
    Reads (.chain .or) start as t f := by
  cases conjunction with
  | and => exact .item .or hf
  | or => exact hf

end Reads

end SqlSelect
