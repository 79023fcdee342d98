import Mathlib.Logic.Relation
import SqlSelect.Proofs.Except
import SqlSelect.Proofs.Rendering.ResultNames
import SqlSelect.Query.AliasWalk

/-!
# `SqlSelect.Proofs.Rendering.AliasSearch`: the search for free aliases comes to an end

The search for a free alias that `AliasWalk` makes has no bound of its own. All aliases below the
counter are taken, and different numbers make different aliases, so the counter is at most the
number of the names that are taken. Each entry takes one name at most: an alias that it has from the
start, the name of its column, or its generated alias.

* `Query.freeNumber_of_mem`: a search goes on from the next number.
* `Query.AliasWalk.Moves`, `Query.AliasWalk.moves_of_step`: all that a step can do.
* `Query.AliasWalk.Sound.next`: what holds of a walk before a step holds of it behind the step.
* `Query.AliasWalk.ends_of_length_le`: the walk comes to an end, with as many candidates as there
  are entries at most, and writes `aliasDuplicates`.
* `Query.of_mem_aliasDuplicates`: a generated alias has a number below the number of entries.
-/

set_option autoImplicit false

namespace SqlSelect.Query

open Column Text

/-! ### Numbers that are passed over -/

/-- Whether the generated aliases below a number are all taken. -/
def AllTaken (taken : List String) (next : Nat) : Prop :=
  ∀ m < next, generatedAlias m ∈ taken

section Numbers

variable {taken names : List String} {next : Nat}

/-- Different numbers take different names, so there are as many names. -/
theorem AllTaken.le_length (h : AllTaken taken next) : next ≤ taken.length :=
  le_length_of_injective generatedAlias_injective h

/-- Names are only added, so what was taken stays so. -/
theorem AllTaken.mono (h : AllTaken taken next) (hsubset : taken ⊆ names) : AllTaken names next :=
  fun m hm => hsubset (h m hm)

/-- A counter that passes over a taken alias has nothing but taken ones below it. -/
theorem AllTaken.succ (h : AllTaken taken next) (hnext : generatedAlias next ∈ taken) :
    AllTaken taken (next + 1) := by
  intro m hm
  rcases Nat.lt_succ_iff_lt_or_eq.mp hm with hlt | rfl
  · exact h m hlt
  · exact hnext

/-- The search ends at once where the alias is free. -/
theorem freeNumber_of_notMem (h : generatedAlias next ∉ taken) (fuel : Nat) :
    freeNumber taken fuel next = next := by
  cases fuel with
  | zero => rfl
  | succ fuel =>
    rw [freeNumber, List.contains_eq_mem, decide_eq_false h]
    exact if_neg Bool.false_ne_true

/-- And goes on with the next number where it is taken. -/
theorem freeNumber_succ_of_mem (h : generatedAlias next ∈ taken) (fuel : Nat) :
    freeNumber taken (fuel + 1) next = freeNumber taken fuel (next + 1) := by
  rw [freeNumber, List.contains_eq_mem, decide_eq_true h]
  exact if_pos rfl

/-- A search that has found a free number does not need more fuel. -/
theorem freeNumber_succ_of_free {fuel : Nat}
    (h : generatedAlias (freeNumber taken fuel next) ∉ taken) :
    freeNumber taken (fuel + 1) next = freeNumber taken fuel next := by
  induction fuel generalizing next with
  | zero => exact freeNumber_of_notMem h 1
  | succ fuel ih =>
    by_cases hnext : generatedAlias next ∈ taken
    · rw [freeNumber_succ_of_mem hnext] at h ⊢
      rw [ih h, freeNumber_succ_of_mem hnext]
    · rw [freeNumber_of_notMem hnext, freeNumber_of_notMem hnext]

/-- The search goes on from the next number. -/
theorem freeNumber_of_mem (h : generatedAlias next ∈ taken) :
    freeNumber taken taken.length next = freeNumber taken taken.length (next + 1) := by
  rw [← freeNumber_succ_of_free (generatedAlias_freeNumber_notMem taken next),
    freeNumber_succ_of_mem h]

end Numbers

/-! ### The names of the entries -/

/-- The number of entries without an alias of their own. -/
def unnamedCount (entries : List String) : Nat :=
  entries.countP fun entry => (existingAlias? entry).isNone

/-- Passing an entry leaves no more entries without an alias than there were. -/
theorem unnamedCount_cons_le (first : String) (rest : List String) :
    unnamedCount rest ≤ unnamedCount (first :: rest) :=
  List.Sublist.countP_le (List.sublist_cons_self first rest)

/-- An entry that may get an alias counts. -/
theorem unnamedCount_cons {first name : String} (hname : plainName? first = some name)
    (rest : List String) : unnamedCount (first :: rest) = unnamedCount rest + 1 := by
  have hnone := existingAlias?_of_plainName? hname
  exact List.countP_cons_of_pos (by rw [hnone]; rfl)

/-- An entry has an alias of its own, or it counts. -/
theorem length_existingAliases_add (entries : List String) :
    (entries.filterMap existingAlias?).length + unnamedCount entries = entries.length := by
  have hparts := List.length_eq_countP_add_countP (fun entry => (existingAlias? entry).isSome)
    (l := entries)
  have hnone : (fun entry => decide ¬(existingAlias? entry).isSome = true)
      = fun entry => (existingAlias? entry).isNone := by
    funext entry
    cases existingAlias? entry <;> rfl
  rw [hnone] at hparts
  rw [List.length_filterMap_eq_countP]
  exact hparts.symm

/-- An entry that is as it was, or has a generated alias with a number below another one. -/
def AliasedBelow (count : Nat) (entry written : String) : Prop :=
  written = entry ∨ ∃ n < count, written = withAlias entry n

namespace AliasWalk

/-! ### One step -/

/-- Whether a walk comes from one place to another by steps. -/
def Reaches (largest : Nat) : AliasWalk → AliasWalk → Prop :=
  Relation.ReflTransGen fun w w' => w.step largest = .next w'

/-- All that a step can do. -/
inductive Moves : AliasWalk → AliasWalk → Prop
  | pass {w : AliasWalk} {expression : String} (hsearch : w.search = some expression)
      (htaken : generatedAlias w.counter ∈ w.names) :
      Moves w { w with
        counter := w.counter + 1
        tried := w.tried ++ [generatedAlias w.counter] }
  | give {w : AliasWalk} {expression : String} (hsearch : w.search = some expression)
      (hfree : generatedAlias w.counter ∉ w.names) :
      Moves w { w with
        written := w.written ++ [expression ++ " " ++ generatedAlias w.counter]
        search := none
        names := generatedAlias w.counter :: w.names
        counter := w.counter + 1
        tried := w.tried ++ [generatedAlias w.counter] }
  | keep {w : AliasWalk} {entry : String} {rest : List String} (hsearch : w.search = none)
      (hrest : w.rest = entry :: rest) (hname : plainName? entry = none) :
      Moves w { w with written := w.written ++ [entry], rest := rest }
  | first {w : AliasWalk} {entry name : String} {rest : List String} (hsearch : w.search = none)
      (hrest : w.rest = entry :: rest) (hname : plainName? entry = some name)
      (hnew : name ∉ w.names) :
      Moves w { w with written := w.written ++ [entry], rest := rest, names := name :: w.names }
  | later {w : AliasWalk} {entry name : String} {rest : List String} (hsearch : w.search = none)
      (hrest : w.rest = entry :: rest) (hname : plainName? entry = some name)
      (htaken : name ∈ w.names) :
      Moves w { w with search := some (String.ofList (trim entry.toList)), rest := rest }

variable {w w' : AliasWalk} {entries : List String} {largest : Nat}

/-- Visiting an entry is a move of the walk, whatever kind of entry it is. -/
theorem moves_visit {entry : String} {rest : List String} (hsearch : w.search = none)
    (hrest : w.rest = entry :: rest) : Moves w (w.visit entry rest) := by
  cases hname : plainName? entry with
  | none =>
    -- The loop asks one question where the name asks three, so both are brought to one condition.
    have hskip := hname
    rw [plainName?] at hskip
    dsimp only at hskip
    split at hskip
    · rename_i hcond
      have hvisit : w.visit entry rest = { w with written := w.written ++ [entry], rest := rest } :=
        if_pos hcond
      rw [hvisit]
      exact .keep hsearch hrest hname
    · cases hskip
  | some name =>
    obtain ⟨hfunction, hgiven, hcolumn, hstar⟩ := plainName?_eq_some_iff.mp hname
    have hcond : ¬ (isFunction entry || (splitAlias entry).2.isSome
        || columnName (splitAlias entry).1 == "*") = true := by
      simp [hfunction, hgiven, hcolumn, hstar]
    have hvisit : w.visit entry rest
        = if columnName (splitAlias entry).1 ∈ w.names then
            { w with search := some (splitAlias entry).1, rest := rest }
          else { w with
            written := w.written ++ [entry]
            rest := rest
            names := columnName (splitAlias entry).1 :: w.names } :=
      if_neg hcond
    rw [hvisit, hcolumn, splitAlias_of_snd_eq_none hgiven]
    split
    · rename_i htaken
      exact .later hsearch hrest hname htaken
    · rename_i hnew
      exact .first hsearch hrest hname hnew

/-- A step goes on, or there is nothing left to do, or the counter cannot go on in a search. -/
theorem step_cases (largest : Nat) (w : AliasWalk) :
    (∃ w', w.step largest = .next w' ∧ Moves w w') ∨
      (w.step largest = .finished ∧ w.search = none ∧ w.rest = []) ∨
      (w.step largest = .overflow ∧ largest ≤ w.counter ∧
        ∃ expression, w.search = some expression) := by
  cases hsearch : w.search with
  | none =>
    cases hrest : w.rest with
    | nil =>
      refine .inr (.inl ⟨?_, rfl, rfl⟩)
      rw [step, hsearch, hrest]
    | cons entry rest =>
      refine .inl ⟨w.visit entry rest, ?_, moves_visit hsearch hrest⟩
      rw [step, hsearch, hrest]
  | some expression =>
    have hstep : w.step largest = w.tryAlias largest expression := by rw [step, hsearch]
    rw [hstep, tryAlias]
    -- The counter is checked before the candidate is looked up.
    by_cases hcounter : largest ≤ w.counter
    · exact .inr (.inr ⟨if_pos hcounter, hcounter, expression, rfl⟩)
    · rw [if_neg hcounter]
      by_cases htaken : generatedAlias w.counter ∈ w.names
      · exact .inl ⟨_, if_pos htaken, .pass hsearch htaken⟩
      · exact .inl ⟨_, if_neg htaken, .give hsearch htaken⟩

/-- A step that goes on is a move. -/
theorem moves_of_step (h : w.step largest = .next w') : Moves w w' := by
  rcases step_cases largest w with ⟨v, hstep, hmove⟩ | ⟨hstep, -⟩ | ⟨hstep, -⟩
  · rw [hstep] at h
    cases h
    exact hmove
  · rw [hstep] at h
    cases h
  · rw [hstep] at h
    cases h

/-! ### What a step keeps -/

/-- How many names may still be taken: one for each entry without an alias, and one for the entry
that an alias is searched for. -/
def pending (w : AliasWalk) : Nat :=
  w.search.toList.length + unnamedCount w.rest

/-- Whether these are the entries that are not finished. The one that an alias is searched for is
the first of them. -/
def Ahead (w : AliasWalk) (later : List String) : Prop :=
  (w.search = none ∧ later = w.rest) ∨
    ∃ entry, w.search = some (String.ofList (trim entry.toList)) ∧ later = entry :: w.rest

/-- What is written when the walk is over. -/
def result (w : AliasWalk) : List String :=
  w.written ++
    match w.search with
    | none => aliasFrom w.names w.counter w.rest
    | some expression =>
      let n := freeNumber w.names w.names.length w.counter
      (expression ++ " " ++ generatedAlias n) ::
        aliasFrom (generatedAlias n :: w.names) (n + 1) w.rest

/-- The counter moves over taken aliases only, and one that is given is taken from then on. -/
theorem Moves.allTaken (h : Moves w w') (htaken : AllTaken w.names w.counter) :
    AllTaken w'.names w'.counter := by
  cases h with
  | pass hsearch hmem => exact htaken.succ hmem
  | give hsearch hfree =>
    -- The alias that is given takes its own number.
    exact (htaken.mono (List.subset_cons_self _ _)).succ List.mem_cons_self
  | keep hsearch hrest hname => exact htaken
  | first hsearch hrest hname hnew => exact htaken.mono (List.subset_cons_self _ _)
  | later hsearch hrest hname hmem => exact htaken

/-- A name that is taken was pending before. -/
theorem Moves.length_names_le (h : Moves w w') :
    w'.names.length + w'.pending ≤ w.names.length + w.pending := by
  cases h with
  | pass hsearch hmem => exact Nat.le_refl _
  | give hsearch hfree =>
    simp only [pending, hsearch, List.length_cons, Option.toList_none, Option.toList_some,
      List.length_nil]
    omega
  | @keep entry rest hsearch hrest hname =>
    -- An entry that is kept may be a call without an alias, which counts but takes no name.
    have hcount := unnamedCount_cons_le entry rest
    simp only [pending, hrest]
    omega
  | first hsearch hrest hname hnew =>
    simp only [pending, hrest, unnamedCount_cons hname, List.length_cons]
    omega
  | later hsearch hrest hname hmem =>
    simp only [pending, hsearch, hrest, unnamedCount_cons hname, List.length_cons,
      Option.toList_none, Option.toList_some, List.length_nil]
    omega

/-- The candidates that have been tried are those below the counter, each once and in order. -/
theorem Moves.tried_eq (h : Moves w w')
    (htried : w.tried = (List.range w.counter).map generatedAlias) :
    w'.tried = (List.range w'.counter).map generatedAlias := by
  have hnext : w.tried ++ [generatedAlias w.counter]
      = (List.range (w.counter + 1)).map generatedAlias := by
    rw [htried, List.range_succ, List.map_append]
    rfl
  cases h with
  | pass hsearch hmem => exact hnext
  | give hsearch hfree => exact hnext
  | keep hsearch hrest hname => exact htried
  | first hsearch hrest hname hnew => exact htried
  | later hsearch hrest hname hmem => exact htried

/-- A step has a part in the result, but does not change it. -/
theorem Moves.result_eq (h : Moves w w') : w'.result = w.result := by
  cases h with
  | pass hsearch hmem =>
    -- A candidate that is taken is not the one that the search comes to.
    simp only [result, hsearch, ← freeNumber_of_mem hmem]
  | give hsearch hfree => simp [result, hsearch, freeNumber_of_notMem hfree]
  | keep hsearch hrest hname => simp [result, hsearch, hrest, aliasFrom_cons, hname]
  | first hsearch hrest hname hnew => simp [result, hsearch, hrest, aliasFrom_cons, hname, hnew]
  | later hsearch hrest hname hmem =>
    simp [result, hsearch, hrest, aliasFrom_cons, hname, hmem, withAlias]

/-- Between two searches the later entries are those that are left. -/
theorem Ahead.eq_rest {later : List String} (h : w.Ahead later) (hsearch : w.search = none) :
    later = w.rest := by
  rcases h with ⟨-, hlater⟩ | ⟨entry, hentry, -⟩
  · exact hlater
  · rw [hsearch] at hentry
    cases hentry

/-- In a search they begin with the entry that it is for. -/
theorem Ahead.exists_entry {later : List String} (h : w.Ahead later) {expression : String}
    (hsearch : w.search = some expression) :
    ∃ entry, expression = String.ofList (trim entry.toList) ∧ later = entry :: w.rest := by
  rcases h with ⟨hnone, -⟩ | ⟨entry, hentry, hlater⟩
  · rw [hsearch] at hnone
    cases hnone
  · exact ⟨entry, Option.some.inj (hsearch.symm.trans hentry), hlater⟩

/-- A step writes nothing, or it writes the first of the entries that are not finished. -/
theorem Moves.ahead (h : Moves w w') {later : List String} (hlater : w.Ahead later) {count : Nat}
    (hcount : w'.counter ≤ count) :
    w'.written = w.written ∧ w'.Ahead later ∨
      ∃ entry written rest, later = entry :: rest ∧ w'.written = w.written ++ [written] ∧
        AliasedBelow count entry written ∧ w'.Ahead rest := by
  cases h with
  | pass hsearch hmem => exact .inl ⟨rfl, hlater⟩
  -- A candidate that is taken writes nothing, and the entry keeps waiting.
  | give hsearch hfree =>
    obtain ⟨entry, rfl, rfl⟩ := hlater.exists_entry hsearch
    exact .inr ⟨entry, _, w.rest, rfl, rfl, .inr ⟨w.counter, hcount, rfl⟩, .inl ⟨rfl, rfl⟩⟩
  | keep hsearch hrest hname =>
    have hentry := (hlater.eq_rest hsearch).trans hrest
    exact .inr ⟨_, _, _, hentry, rfl, .inl rfl, .inl ⟨hsearch, rfl⟩⟩
  | first hsearch hrest hname hnew =>
    have hentry := (hlater.eq_rest hsearch).trans hrest
    exact .inr ⟨_, _, _, hentry, rfl, .inl rfl, .inl ⟨hsearch, rfl⟩⟩
  | later hsearch hrest hname hmem =>
    -- The entry is set aside for the search; it is written once a candidate is free.
    have hentry := (hlater.eq_rest hsearch).trans hrest
    exact .inl ⟨rfl, .inr ⟨_, rfl, hentry⟩⟩

/-- What holds of the walk through some entries, wherever it is. -/
structure Sound (entries : List String) (w : AliasWalk) : Prop where
  allTaken : AllTaken w.names w.counter
  room : w.names.length + w.pending ≤ entries.length
  tried : w.tried = (List.range w.counter).map generatedAlias
  passed : ∃ before later, entries = before ++ later ∧
    List.Forall₂ (AliasedBelow entries.length) before w.written ∧ w.Ahead later
  result : w.result = aliasDuplicates entries

/-- All of this holds before the first step: nothing is tried, written or passed over. -/
theorem sound_start (entries : List String) : Sound entries (start entries) where
  allTaken m hm := absurd hm (Nat.not_lt_zero m)
  room := by
    show (entries.filterMap existingAlias?).length + (0 + unnamedCount entries) ≤ _
    rw [Nat.zero_add, length_existingAliases_add]
  tried := rfl
  passed := ⟨[], entries, rfl, .nil, .inl ⟨rfl, rfl⟩⟩
  result := rfl

/-- The counter is at most the number of taken names, which is at most that of the entries. -/
theorem Sound.counter_le (h : Sound entries w) : w.counter ≤ entries.length := by
  have htaken := h.allTaken.le_length
  have hroom := h.room
  omega

/-- The alias that is searched for is not among the names yet. -/
theorem Sound.counter_lt (h : Sound entries w) {expression : String}
    (hsearch : w.search = some expression) : w.counter < entries.length := by
  have htaken := h.allTaken.le_length
  have hroom := h.room
  simp only [pending, hsearch, Option.toList_some, List.length_singleton] at hroom
  omega

/-- What one move keeps, part by part. `Sound.reaches` carries it to the whole walk. -/
theorem Sound.next (h : Sound entries w) (hmove : Moves w w') : Sound entries w' := by
  have hallTaken := hmove.allTaken h.allTaken
  have hroom := Nat.le_trans hmove.length_names_le h.room
  have hcounter : w'.counter ≤ entries.length := by
    have htaken := hallTaken.le_length
    omega
  refine ⟨hallTaken, hroom, hmove.tried_eq h.tried, ?_, hmove.result_eq.trans h.result⟩
  obtain ⟨before, later, hentries, hbefore, hlater⟩ := h.passed
  rcases hmove.ahead hlater hcounter with ⟨hwritten, hahead⟩ |
    ⟨entry, written, rest, rfl, hwritten, hentry, hahead⟩
  · exact ⟨before, later, hentries, hwritten ▸ hbefore, hahead⟩
  · refine ⟨before ++ [entry], rest, by rw [hentries, List.append_assoc]; rfl, ?_, hahead⟩
    rw [hwritten]
    exact List.rel_append hbefore (.cons hentry .nil)

/-! ### The whole walk -/

/-- What holds at the start holds wherever the walk gets to. -/
theorem Sound.reaches (h : Sound entries w) (hreaches : Reaches largest w w') :
    Sound entries w' := by
  induction hreaches with
  | refl => exact h
  | tail _ hstep ih => exact ih.next (moves_of_step hstep)

/-- The counter does not overflow: it is below the number of the entries in a search. -/
theorem Sound.step_cases (h : Sound entries w) (hlargest : entries.length ≤ largest) :
    (∃ w', w.step largest = .next w' ∧ Moves w w') ∨
      (w.step largest = .finished ∧ w.search = none ∧ w.rest = []) := by
  rcases AliasWalk.step_cases largest w with hnext | hfinished | ⟨-, hcounter, expression, hsearch⟩
  · exact .inl hnext
  · exact .inr hfinished
  · have hlt := h.counter_lt hsearch
    omega

/-- A bound on the steps to come, for some number of candidates in all. An entry takes two steps,
one to look at it and one to give it an alias, and the other steps pass over candidates. -/
def stepsLeft (count : Nat) (w : AliasWalk) : Nat :=
  2 * w.rest.length + w.search.toList.length + (count - w.counter)

/-- Each move leaves fewer steps: it passes an entry, ends a search or tries a candidate, and there
are only so many of each. -/
theorem Sound.stepsLeft_lt (h : Sound entries w) (hmove : Moves w w') :
    w'.stepsLeft entries.length < w.stepsLeft entries.length := by
  cases hmove with
  | pass hsearch hmem =>
    -- The counter stays below the number of entries, so a try always uses up one of the tries left.
    have hcounter := h.counter_lt hsearch
    simp only [stepsLeft]
    omega
  | give hsearch hfree =>
    have hcounter := h.counter_lt hsearch
    simp only [stepsLeft, hsearch, Option.toList_none, Option.toList_some, List.length_nil,
      List.length_singleton]
    omega
  | keep hsearch hrest hname =>
    simp only [stepsLeft, hrest, List.length_cons]
    omega
  | first hsearch hrest hname hnew =>
    simp only [stepsLeft, hrest, List.length_cons]
    omega
  | later hsearch hrest hname hmem =>
    simp only [stepsLeft, hsearch, hrest, List.length_cons, Option.toList_none, Option.toList_some,
      List.length_nil]
    omega

/-- Every walk comes to an end, as the bound goes down with every step. -/
theorem Sound.exists_finished (h : Sound entries w) (hlargest : entries.length ≤ largest) :
    ∃ final, Reaches largest w final ∧ final.step largest = .finished ∧ final.search = none ∧
      final.rest = [] := by
  induction hleft : w.stepsLeft entries.length using Nat.strong_induction_on generalizing w with
  | h left ih =>
    rcases h.step_cases hlargest with ⟨w', hstep, hmove⟩ | hfinished
    · obtain ⟨final, hreaches, hfinal⟩ := ih _ (hleft ▸ h.stepsLeft_lt hmove) (h.next hmove) rfl
      exact ⟨final, .head hstep hreaches, hfinal⟩
    · exact ⟨w, .refl, hfinished⟩

/-- A walk that has ended has written the entries with their aliases. -/
theorem Sound.finished (h : Sound entries w) (hsearch : w.search = none) (hrest : w.rest = []) :
    w.written = aliasDuplicates entries ∧
      List.Forall₂ (AliasedBelow entries.length) entries w.written := by
  constructor
  · rw [← h.result, AliasWalk.result, hsearch, hrest]
    exact (List.append_nil _).symm
  · obtain ⟨before, later, hentries, hbefore, hlater⟩ := h.passed
    rw [hlater.eq_rest hsearch, hrest, List.append_nil] at hentries
    subst hentries
    exact hbefore

/-- The walk through a select list, with a counter that can hold the number of its entries. Wherever
it is, the counter does not overflow, it is at most the number of the entries, and there have been
as many candidates, which are the first aliases one after the other; and the walk comes to an end
from there. At the end the select list is the one with an alias for every column whose name is
taken, and each alias in it has a number below the number of the entries. -/
theorem ends_of_length_le (hlargest : entries.length ≤ largest) :
    (∀ w, Reaches largest (start entries) w →
        w.step largest ≠ .overflow ∧ w.counter ≤ entries.length ∧
        w.tried = (List.range w.counter).map generatedAlias ∧
        ∃ final, Reaches largest w final ∧ final.step largest = .finished) ∧
      ∀ final, Reaches largest (start entries) final → final.step largest = .finished →
        final.written = aliasDuplicates entries ∧
          List.Forall₂ (AliasedBelow entries.length) entries final.written := by
  -- Everything about a reached state follows from the invariant.
  have hsound : ∀ w, Reaches largest (start entries) w → Sound entries w :=
    fun w hreaches => (sound_start entries).reaches hreaches
  refine ⟨fun w hreaches => ?_, fun final hreaches hfinished => ?_⟩
  · have h := hsound w hreaches
    obtain ⟨final, hend, hfinished, -⟩ := h.exists_finished hlargest
    refine ⟨fun hoverflow => ?_, h.counter_le, h.tried, final, hend, hfinished⟩
    rcases h.step_cases hlargest with ⟨w', hstep, -⟩ | ⟨hstep, -⟩
    · rw [hstep] at hoverflow
      cases hoverflow
    · rw [hstep] at hoverflow
      cases hoverflow
  · have h := hsound final hreaches
    rcases h.step_cases hlargest with ⟨w', hstep, -⟩ | ⟨-, hsearch, hrest⟩
    · rw [hstep] at hfinished
      cases hfinished
    · exact h.finished hsearch hrest

/-- A select list with aliases of its own that the search passes over. -/
def repeatedColumns : List String :=
  ["s.c1", "t.c1", "COUNT(u.x) AS a0", "MAX(u.y) a1"]

/-- A column that repeats a name, beside two aliases that look like generated ones. -/
theorem ends_of_length_le_repeatedColumns :
    repeatedColumns.length ≤ UInt64.size - 1 ∧
      ∃ final, Reaches (UInt64.size - 1) (start repeatedColumns) final ∧
        final.step (UInt64.size - 1) = .finished ∧ final.counter ≤ repeatedColumns.length ∧
        final.written = ["s.c1", "t.c1 a2", "COUNT(u.x) AS a0", "MAX(u.y) a1"] := by
  have hlargest : repeatedColumns.length ≤ UInt64.size - 1 := by decide
  have hwritten : aliasDuplicates repeatedColumns
      = ["s.c1", "t.c1 a2", "COUNT(u.x) AS a0", "MAX(u.y) a1"] := by
    decide +kernel
  obtain ⟨hreached, hfinished⟩ := ends_of_length_le hlargest
  obtain ⟨-, -, -, final, hreaches, hfinal⟩ := hreached (start repeatedColumns) .refl
  obtain ⟨-, hcounter, -, -⟩ := hreached final hreaches
  exact ⟨hlargest, final, hreaches, hfinal, hcounter,
    (hfinished final hreaches hfinal).1.trans hwritten⟩

end AliasWalk

/-- An entry with a duplicate of a column is the entry itself or gets an alias, the number of which
is below the number of entries. -/
theorem of_mem_aliasDuplicates {entries : List String} {entry : String}
    (h : entry ∈ aliasDuplicates entries) :
    entry ∈ entries ∨
      ∃ n < entries.length, ∃ expression, entry = expression ++ " " ++ generatedAlias n := by
  have hstart := AliasWalk.sound_start entries
  obtain ⟨final, hreaches, -, hsearch, hrest⟩ :=
    hstart.exists_finished (Nat.le_refl entries.length)
  obtain ⟨hwritten, haliased⟩ := (hstart.reaches hreaches).finished hsearch hrest
  rw [hwritten] at haliased
  obtain ⟨old, hold, rfl | ⟨n, hn, rfl⟩⟩ := exists_rel_of_mem haliased h
  · exact .inl hold
  · exact .inr ⟨n, hn, _, rfl⟩

end SqlSelect.Query
