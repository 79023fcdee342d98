/-!
# `SqlSelect.NamedList`: values under names, in the order of the names

A named list holds at most one value under a name. A new name goes behind the others; a value
under a name that is there replaces the old one in its place.

* `NamedList.names_put`, `NamedList.get?_put`: the names and values after a value has been put.
* `NamedList.entries_put_of_notMem`: a value under a new name stands behind the others.
* `NamedList.names_erase`, `NamedList.get?_erase`: the names and values after one has been erased.
* `NamedList.names_putAll`, `NamedList.get?_putAll`: the names and values after all those of
  another list have been put.
* `NamedList.isSome_get?_iff`: there is a value under exactly the names of the list.
-/

set_option autoImplicit false

namespace SqlSelect

/-- Puts a value under a name into a list of named values. -/
def putNamed {α : Type} (name : String) (value : α) : List (String × α) → List (String × α)
  | [] => [(name, value)]
  | (n, v) :: rest =>
    if n = name then (name, value) :: rest else (n, v) :: putNamed name value rest

/-- The names after a value has been put under a name. -/
theorem map_fst_putNamed {α : Type} (name : String) (value : α) (entries : List (String × α)) :
    (putNamed name value entries).map Prod.fst =
      if name ∈ entries.map Prod.fst then entries.map Prod.fst
      else entries.map Prod.fst ++ [name] := by
  induction entries with
  | nil => simp [putNamed]
  | cons entry rest ih =>
    obtain ⟨n, v⟩ := entry
    by_cases hn : n = name
    · simp [putNamed, hn]
    · have hn' : ¬ name = n := fun h => hn h.symm
      simp only [putNamed, hn, if_false, List.map_cons, ih, List.mem_cons, hn', false_or]
      split <;> simp

/-- A value under a new name goes behind the others. -/
theorem putNamed_of_notMem {α : Type} {name : String} {entries : List (String × α)}
    (h : name ∉ entries.map Prod.fst) (value : α) :
    putNamed name value entries = entries ++ [(name, value)] := by
  induction entries with
  | nil => rfl
  | cons entry rest ih =>
    rw [List.map_cons, List.mem_cons, not_or] at h
    rw [putNamed, if_neg (Ne.symm h.1), ih h.2, List.cons_append]

/-- Putting a value under a name adds no other value. -/
theorem mem_putNamed {α : Type} {name : String} {value : α} {entries : List (String × α)}
    {entry : String × α} (h : entry ∈ putNamed name value entries) :
    entry = (name, value) ∨ entry ∈ entries := by
  induction entries with
  | nil => simpa [putNamed] using h
  | cons first rest ih =>
    obtain ⟨n, v⟩ := first
    simp only [putNamed] at h
    split at h
    · rcases List.mem_cons.mp h with rfl | h
      · exact .inl rfl
      · exact .inr (List.mem_cons_of_mem _ h)
    · rcases List.mem_cons.mp h with rfl | h
      · exact .inr List.mem_cons_self
      · exact (ih h).imp id (List.mem_cons_of_mem _)

/-- Looking up a name in a list with a first value. -/
theorem lookup_cons_eq_ite {α : Type} (name n : String) (v : α) (rest : List (String × α)) :
    ((n, v) :: rest).lookup name = if name = n then some v else rest.lookup name := by
  rw [List.lookup_cons]
  by_cases h : name = n
  · simp [h]
  · have hb : (name == n) = false := by simpa using h
    simp [h, hb]

/-- The values after a value has been put under a name. -/
theorem lookup_putNamed {α : Type} (name : String) (value : α) (entries : List (String × α))
    (other : String) : (putNamed name value entries).lookup other =
      if other = name then some value else entries.lookup other := by
  induction entries with
  | nil => simp [putNamed, lookup_cons_eq_ite]
  | cons entry rest ih =>
    obtain ⟨n, v⟩ := entry
    by_cases hn : n = name
    · subst hn
      by_cases h : other = n <;> simp [putNamed, lookup_cons_eq_ite, h]
    · by_cases h : other = n
      · subst h
        simp [putNamed, hn]
      · simp [putNamed, hn, lookup_cons_eq_ite, h, ih]

/-- A name has a value exactly if it is one of the names. -/
theorem isSome_lookup_iff {α : Type} (entries : List (String × α)) (name : String) :
    (entries.lookup name).isSome ↔ name ∈ entries.map Prod.fst := by
  induction entries with
  | nil => simp
  | cons entry rest ih =>
    obtain ⟨n, v⟩ := entry
    by_cases h : name = n <;> simp [lookup_cons_eq_ite, h, ih]

/-- The values after all values under a name have been taken out. -/
theorem lookup_filter_ne {α : Type} (name : String) (entries : List (String × α))
    (other : String) : (entries.filter fun entry => entry.1 != name).lookup other =
      if other = name then none else entries.lookup other := by
  induction entries with
  | nil => simp
  | cons entry rest ih =>
    obtain ⟨n, v⟩ := entry
    by_cases hn : n = name
    · subst hn
      rw [List.filter_cons_of_neg (by simp), ih, lookup_cons_eq_ite]
      split <;> rfl
    · rw [List.filter_cons_of_pos (by simpa using hn), lookup_cons_eq_ite, ih, lookup_cons_eq_ite]
      by_cases h : other = n
      · subst h
        simp [hn]
      · simp [h]

/-- The names stay distinct when a value is put under a name. -/
theorem nodup_putNamed {α : Type} {name : String} {value : α} {entries : List (String × α)}
    (h : (entries.map Prod.fst).Nodup) :
    ((putNamed name value entries).map Prod.fst).Nodup := by
  rw [map_fst_putNamed]
  split
  · exact h
  · rename_i hn
    refine List.nodup_append.2 ⟨h, by simp, ?_⟩
    intro a ha b hb
    simp only [List.mem_singleton] at hb
    subst hb
    exact fun hab => hn (hab ▸ ha)

/-- Values under distinct names. -/
structure NamedList (α : Type) where
  entries : List (String × α)
  nodup : (entries.map Prod.fst).Nodup

namespace NamedList

variable {α : Type}

/-- The list without values. -/
def empty : NamedList α := ⟨[], .nil⟩

instance : Inhabited (NamedList α) := ⟨empty⟩

/-- The names in order. -/
def names (l : NamedList α) : List String := l.entries.map Prod.fst

/-- The number of values. -/
def size (l : NamedList α) : Nat := l.entries.length

/-- Whether there are no values. -/
def isEmpty (l : NamedList α) : Bool := l.entries.isEmpty

/-- The value under a name. -/
def get? (l : NamedList α) (name : String) : Option α := l.entries.lookup name

/-- Whether there is a value under a name. -/
def contains (l : NamedList α) (name : String) : Bool := l.names.contains name

/-- The list with a value under a name. -/
def put (l : NamedList α) (name : String) (value : α) : NamedList α :=
  ⟨putNamed name value l.entries, nodup_putNamed l.nodup⟩

/-- The list with all values of another one. -/
def putAll (l m : NamedList α) : NamedList α :=
  m.entries.foldl (fun l (name, value) => l.put name value) l

/-- The list of values under names, of which the last one counts where a name is repeated. -/
def ofEntries (entries : List (String × α)) : NamedList α :=
  entries.foldl (fun l (name, value) => l.put name value) empty

/-- The list without the value under a name. -/
def erase (l : NamedList α) (name : String) : NamedList α where
  entries := l.entries.filter fun entry => entry.1 != name
  nodup := (List.filter_sublist.map Prod.fst).nodup l.nodup

/-! ### Names and values after a change -/

/-- A known name stays in its place, and a new one goes behind the others. -/
theorem names_put (l : NamedList α) (name : String) (value : α) :
    (l.put name value).names = if name ∈ l.names then l.names else l.names ++ [name] :=
  map_fst_putNamed name value l.entries

/-- The value is found under its name, and every other name has the value that it had. -/
theorem get?_put (l : NamedList α) (name : String) (value : α) (other : String) :
    (l.put name value).get? other = if other = name then some value else l.get? other :=
  lookup_putNamed name value l.entries other

/-- Erasing takes one name out and leaves the others in order. -/
theorem names_erase (l : NamedList α) (name : String) :
    (l.erase name).names = l.names.filter (· != name) := by
  simp only [names, erase, List.filter_map]
  rfl

/-- There is nothing under an erased name, and every other name has the value that it had. -/
theorem get?_erase (l : NamedList α) (name other : String) :
    (l.erase name).get? other = if other = name then none else l.get? other :=
  lookup_filter_ne name l.entries other

/-- Exactly the names of the list have a value. -/
theorem isSome_get?_iff (l : NamedList α) (name : String) :
    (l.get? name).isSome ↔ name ∈ l.names :=
  isSome_lookup_iff l.entries name

/-- There are as many names as entries. -/
theorem length_names (l : NamedList α) : l.names.length = l.size :=
  List.length_map Prod.fst

/-- A list contains the names that are in it. -/
theorem contains_iff (l : NamedList α) (name : String) : l.contains name ↔ name ∈ l.names :=
  List.contains_iff_mem

/-- A value under a new name stands behind the others. -/
theorem entries_put_of_notMem {l : NamedList α} {name : String} (h : name ∉ l.names) (value : α) :
    (l.put name value).entries = l.entries ++ [(name, value)] :=
  putNamed_of_notMem h value

/-- A value stands under its name. -/
theorem get?_eq_some_iff {l : NamedList α} {name : String} {value : α} :
    l.get? name = some value ↔ (name, value) ∈ l.entries := by
  obtain ⟨entries, nodup⟩ := l
  show entries.lookup name = some value ↔ (name, value) ∈ entries
  induction entries with
  | nil => simp
  | cons entry rest ih =>
    obtain ⟨n, v⟩ := entry
    rw [List.map_cons, List.nodup_cons] at nodup
    rw [lookup_cons_eq_ite, List.mem_cons, Prod.mk.injEq]
    by_cases hname : name = n
    · subst hname
      have hrest : (name, value) ∉ rest := fun hmem => nodup.1 (List.mem_map.mpr ⟨_, hmem, rfl⟩)
      simp [hrest, eq_comm]
    · simp [hname, ih nodup.2]

/-- Values under distinct names are put one after the other: the old names stay in their places, and
the new ones go behind them. -/
theorem names_foldl_put (l : NamedList α) {entries : List (String × α)}
    (h : (entries.map Prod.fst).Nodup) :
    (entries.foldl (fun l (name, value) => l.put name value) l).names
      = l.names ++ (entries.map Prod.fst).filter (· ∉ l.names) := by
  induction entries generalizing l with
  | nil => simp
  | cons entry rest ih =>
    obtain ⟨n, v⟩ := entry
    rw [List.map_cons, List.nodup_cons] at h
    rw [List.foldl_cons, ih (l.put n v) h.2, names_put, List.map_cons]
    by_cases hn : n ∈ l.names
    · simp [hn]
    · -- The name is not among the later ones, so these are new to both lists or to none.
      have hlater : (rest.map Prod.fst).filter (· ∉ l.names ++ [n])
          = (rest.map Prod.fst).filter (· ∉ l.names) := by
        refine List.filter_congr fun m hm => ?_
        have hne : m ≠ n := fun heq => h.1 (heq ▸ hm)
        simp [hne]
      rw [if_neg hn, hlater, List.filter_cons_of_pos (by simpa using hn), List.append_assoc]
      rfl

/-- After many values have been put, a name has the one put under it, or else the one it had. -/
theorem get?_foldl_put (l : NamedList α) {entries : List (String × α)}
    (h : (entries.map Prod.fst).Nodup) (name : String) :
    (entries.foldl (fun l (name, value) => l.put name value) l).get? name
      = (entries.lookup name).or (l.get? name) := by
  induction entries generalizing l with
  | nil => rfl
  | cons entry rest ih =>
    obtain ⟨n, v⟩ := entry
    rw [List.map_cons, List.nodup_cons] at h
    rw [List.foldl_cons, ih (l.put n v) h.2, get?_put, lookup_cons_eq_ite]
    by_cases hname : name = n
    · subst hname
      have hrest : rest.lookup name = none :=
        Option.not_isSome_iff_eq_none.mp fun hsome => h.1 ((isSome_lookup_iff rest name).mp hsome)
      simp [hrest]
    · simp [hname]

/-- The names of both lists, those of the second one behind the others if they are new. -/
theorem names_putAll (l m : NamedList α) :
    (l.putAll m).names = l.names ++ m.names.filter (· ∉ l.names) :=
  l.names_foldl_put m.nodup

/-- The second list hides the values of the first one. -/
theorem get?_putAll (l m : NamedList α) (name : String) :
    (l.putAll m).get? name = (m.get? name).or (l.get? name) :=
  l.get?_foldl_put m.nodup name

/-- Nothing is erased under a name that is not there. -/
theorem erase_of_notMem {l : NamedList α} {name : String} (h : name ∉ l.names) :
    l.erase name = l := by
  obtain ⟨entries, nodup⟩ := l
  have hentries : entries.filter (fun entry => entry.1 != name) = entries := by
    refine List.filter_eq_self.mpr fun entry hentry => ?_
    have hne : entry.1 ≠ name := fun heq => h (heq ▸ List.mem_map_of_mem hentry)
    simpa using hne
  simp only [erase, hentries]

end NamedList

end SqlSelect
