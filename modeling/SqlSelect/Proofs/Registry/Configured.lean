import SqlSelect.Proofs.Except
import SqlSelect.Proofs.Registry.History

/-!
# `SqlSelect.Proofs.Registry.Configured`: the registry of a configuration

A registry is made of a configuration in two steps that can fail, `DatabasesConfig.validate` and
`DatabaseConfig.dialectIn` for each database, and one that cannot: the databases are registered in
order, and the default one of the configuration is registered as such.

The first database that is registered becomes the default whatever the configuration says, and
`DatabasesConfig.getDefault?` has three rules of its own. `default_registerAll` is the invariant of
the loop: the default is the one asked for as soon as it has been registered, and the first
database until then.

* `DatabaseRegistry.Mirrors`: the same databases in the same order, each with its own dialect, and
  the same default.
* `DatabaseRegistry.mirrors_of_ofConfigWith`: when there is a registry, which error there is
  otherwise, and that the registry mirrors the configuration.
-/

set_option autoImplicit false

namespace SqlSelect

/-! ### The default of a configuration -/

namespace DatabasesConfig

variable {config : DatabasesConfig}

/-- A configuration that passes the check has a default that is one of its databases, or none. -/
theorem checkDefault_of_validate (h : config.validate = .ok ()) : config.checkDefault = .ok () := by
  obtain ⟨⟨⟩, hdefault, -⟩ := except_bind_eq_ok_iff.mp h
  exact hdefault

/-- A configuration that has been checked names one of its own databases. -/
theorem mem_names_of_checkDefault (h : config.checkDefault = .ok ()) {name : String}
    (hname : config.default = some name) : name ∈ config.databases.names := by
  simp only [checkDefault, hname] at h
  split at h
  · rename_i hcontains
    exact (config.databases.contains_iff name).mp hcontains
  · cases h

/-- The first marked database is the first one that is found with a mark. -/
theorem head?_marked : config.marked.head?
    = (config.databases.entries.find? fun entry => entry.2.isDefault).map Prod.fst := by
  rw [marked, List.head?_map, List.head?_filter]

/-- The default is the one named so, otherwise the first one marked so, otherwise the first one. -/
theorem map_fst_getDefault? (h : config.checkDefault = .ok ()) :
    config.getDefault?.map Prod.fst
      = config.default.or (config.marked.head?.or config.databases.names.head?) := by
  rw [getDefault?]
  cases hdefault : config.default with
  | some name =>
    have hsome := (config.databases.isSome_get?_iff name).mpr (mem_names_of_checkDefault h hdefault)
    obtain ⟨c, hc⟩ := Option.isSome_iff_exists.mp hsome
    simp [hc]
  | none =>
    rw [head?_marked, NamedList.names, List.head?_map]
    cases config.databases.entries.find? fun entry => entry.2.isDefault <;> rfl

/-- There is no default only where there is no database. -/
theorem default_mem_or_names_eq_nil (h : config.checkDefault = .ok ()) :
    (∃ name ∈ config.databases.names, config.getDefault?.map Prod.fst = some name) ∨
      (config.databases.names = [] ∧ config.getDefault?.map Prod.fst = none) := by
  rw [map_fst_getDefault? h]
  -- The three places the default is looked for in, in their order: named, marked, the first entry.
  cases hdefault : config.default with
  | some name => exact .inl ⟨name, mem_names_of_checkDefault h hdefault, rfl⟩
  | none =>
    cases hmarked : config.marked.head? with
    | some name =>
      refine .inl ⟨name, ?_, rfl⟩
      obtain ⟨entry, hentry, rfl⟩ := List.mem_map.mp (List.mem_of_head? hmarked)
      exact List.mem_map_of_mem (List.mem_of_mem_filter hentry)
    | none =>
      cases hnames : config.databases.names with
      | nil => exact .inr ⟨rfl, rfl⟩
      | cons name names => exact .inl ⟨name, List.mem_cons_self, rfl⟩

end DatabasesConfig

/-- The dialect that the adapter of a database stands for. -/
def DatabaseConfig.dialectIn (dialects : DialectRegistry) (c : DatabaseConfig) :
    Except QueryError Dialect :=
  match c.adapterKey with
  | .error fault => .error fault.toError
  | .ok key => dialects.lookup key

/-- A database has a dialect if its adapter is known and its key is found. -/
theorem DatabaseConfig.dialectIn_eq_ok_iff {dialects : DialectRegistry} {c : DatabaseConfig}
    {d : Dialect} : c.dialectIn dialects = .ok d ↔
      ∃ key, c.adapterKey = .ok key ∧ dialects.lookup key = .ok d := by
  rw [dialectIn]
  cases c.adapterKey <;> simp

namespace DatabaseRegistry

/-! ### The loop over the databases -/

/-- A database as it is registered. -/
def entryOf (dialects : DialectRegistry) (configured : String × DatabaseConfig) :
    Except QueryError DatabaseEntry :=
  (configured.2.dialectIn dialects).map fun d =>
    ⟨configured.1, d, configured.2.quoteIdentifiers⟩

/-- Registers databases one after the other, and the one with the given name as the default. -/
def registerAll (defaultName : Option String) (r : DatabaseRegistry)
    (entries : List DatabaseEntry) : DatabaseRegistry :=
  entries.foldl (fun r entry => r.register entry (defaultName == some entry.name)) r

section Loop

variable {dialects : DialectRegistry} {defaultName : Option String} {r : DatabaseRegistry}

/-- One round of the loop makes an entry, which may fail, and registers it. -/
theorem registerConfigured_eq (configured : String × DatabaseConfig) :
    registerConfigured dialects defaultName r configured
      = (entryOf dialects configured).map fun entry =>
        r.register entry (defaultName == some entry.name) := by
  simp only [registerConfigured, entryOf, DatabaseConfig.dialectIn]
  cases configured.2.adapterKey with
  | error fault => rfl
  | ok key =>
    show (dialects.lookup key).map _ = ((dialects.lookup key).map _).map _
    cases dialects.lookup key <;> rfl

/-- Whether the loop fails does not depend on what has been registered. -/
theorem foldlM_registerConfigured (configured : List (String × DatabaseConfig)) :
    configured.foldlM (registerConfigured dialects defaultName) r
      = (configured.mapM (entryOf dialects)).map (registerAll defaultName r) := by
  induction configured generalizing r with
  | nil => rfl
  | cons first rest ih =>
    rw [List.foldlM_cons, List.mapM_cons, registerConfigured_eq]
    cases entryOf dialects first with
    | error e => rfl
    | ok entry =>
      -- The others are registered behind the first one, which is in the registry by now.
      refine Eq.trans ih ?_
      cases rest.mapM (entryOf dialects) <;> rfl

/-- A new database becomes the default if it should be or if it is the first. -/
theorem default_register_of_notMem {entry : DatabaseEntry} (hnew : entry.name ∉ r.names)
    (asDefault : Bool) : (r.register entry asDefault).default
      = if asDefault || r.names.isEmpty then some entry.name else r.default := by
  have hempty : ((r.register entry asDefault).names.length == 1) = r.names.isEmpty := by
    rw [names_register, if_neg hnew, List.length_append]
    cases r.names <;> simp
  rw [default_register_eq, hempty]

/-- The databases to come have names of their own, and so have those behind the first of them once
it has been registered. -/
theorem nodup_register_of_nodup {entry : DatabaseEntry} {entries : List DatabaseEntry}
    (hnodup : (r.names ++ (entry :: entries).map DatabaseEntry.name).Nodup) (asDefault : Bool) :
    entry.name ∉ r.names ∧
      ((r.register entry asDefault).names ++ entries.map DatabaseEntry.name).Nodup := by
  have hnew : entry.name ∉ r.names := fun hmem =>
    (List.nodup_append.mp hnodup).2.2 _ hmem _ List.mem_cons_self rfl
  refine ⟨hnew, ?_⟩
  rw [names_register, if_neg hnew, ← List.append_cons]
  exact hnodup

/-- New databases stand behind the others in their order. -/
theorem entries_registerAll {entries : List DatabaseEntry}
    (hnodup : (r.names ++ entries.map DatabaseEntry.name).Nodup) :
    (registerAll defaultName r entries).databases.entries
      = r.databases.entries ++ entries.map fun entry => (entry.name, entry) := by
  induction entries generalizing r with
  | nil => exact (List.append_nil _).symm
  | cons entry entries ih =>
    obtain ⟨hnew, hnodup⟩ := nodup_register_of_nodup hnodup (defaultName == some entry.name)
    refine (ih hnodup).trans ?_
    show (r.databases.put entry.name entry).entries ++ _ = _
    rw [NamedList.entries_put_of_notMem hnew, List.map_cons, ← List.append_cons]

/-- The loop keeps the default it has found until the one with the given name is registered. Where
it has found none, the first one that it registers stands in. -/
theorem default_registerAll (h : r.Consistent) {entries : List DatabaseEntry}
    (hnodup : (r.names ++ entries.map DatabaseEntry.name).Nodup) :
    (registerAll defaultName r entries).default
      = if defaultName ∈ entries.map fun entry => some entry.name then defaultName
        else r.default.or (entries.head?.map DatabaseEntry.name) := by
  induction entries generalizing r with
  | nil => simp [registerAll]
  | cons entry entries ih =>
    obtain ⟨hnew, hnodup⟩ := nodup_register_of_nodup hnodup (defaultName == some entry.name)
    have hmade : ¬ (RegistryCall.register entry (defaultName == some entry.name)).Refused r := id
    have hnext : (r.register entry (defaultName == some entry.name)).Consistent := h.effect hmade
    refine (ih hnext hnodup).trans ?_
    rw [default_register_of_notMem hnew]
    by_cases hlater : defaultName ∈ entries.map fun entry => some entry.name
    · -- Whatever is the default now gives way to the one that is to come.
      rw [if_pos hlater, List.map_cons, if_pos (List.mem_cons_of_mem _ hlater)]
    · rw [if_neg hlater]
      by_cases hnow : defaultName = some entry.name
      · subst hnow
        simp
      · have hnot : defaultName ∉ (entry :: entries).map fun entry => some entry.name := by
          rw [List.map_cons, List.mem_cons, not_or]
          exact ⟨hnow, hlater⟩
        rw [if_neg hnot, beq_false_of_ne hnow, Bool.false_or]
        -- A consistent registry has a default as soon as it has databases.
        cases hdefault : r.default with
        | none =>
          have hnil : r.names = [] := by
            by_contra hne
            exact absurd (h.default_isSome_iff.mpr hne) (by simp [hdefault])
          simp [hnil]
        | some name =>
          have hne : r.names ≠ [] := List.ne_nil_of_mem (h.default_mem name hdefault)
          simp [hne]

end Loop

/-! ### The registry and the configuration -/

/-- The databases of a configuration in their order, each with the dialect that its adapter stands
for, and the default of the configuration. -/
structure Mirrors (config : DatabasesConfig) (dialects : DialectRegistry) (r : DatabaseRegistry) :
    Prop where
  names : r.names = config.databases.names
  entries : List.Forall₂
    (fun configured registered => registered.1 = configured.1 ∧ registered.2.name = configured.1 ∧
      (∃ key, configured.2.adapterKey = .ok key ∧ dialects.lookup key = .ok registered.2.dialect) ∧
      registered.2.quoteIdentifiers = configured.2.quoteIdentifiers)
    config.databases.entries r.databases.entries
  default : r.default = config.getDefault?.map Prod.fst
  /-- The default in full: the one named so, the first one marked so, the first one. -/
  default_rule : r.default
    = config.default.or (config.marked.head?.or config.databases.names.head?)
  default_eq_none_iff : r.default = none ↔ config.databases.names = []

variable {config : DatabasesConfig} {dialects : DialectRegistry}

/-- What a database is registered as has its name. -/
theorem map_name_of_forall₂ {configured : List (String × DatabaseConfig)}
    {registered : List DatabaseEntry}
    (h : List.Forall₂ (fun c entry => entryOf dialects c = .ok entry) configured registered) :
    registered.map DatabaseEntry.name = configured.map Prod.fst := by
  induction h with
  | nil => rfl
  | cons hfirst _ ih =>
    obtain ⟨d, -, rfl⟩ := except_map_eq_ok_iff.mp hfirst
    rw [List.map_cons, List.map_cons, ih]

/-- When every database has an entry, the registry of the entries mirrors the configuration. -/
theorem mirrors_registerAll (hcheck : config.checkDefault = .ok ()) {entries : List DatabaseEntry}
    (h : List.Forall₂ (fun c entry => entryOf dialects c = .ok entry)
      config.databases.entries entries) :
    (registerAll (config.getDefault?.map Prod.fst) empty entries).Mirrors config dialects := by
  have hnames : entries.map DatabaseEntry.name = config.databases.names := map_name_of_forall₂ h
  have hnodup : (empty.names ++ entries.map DatabaseEntry.name).Nodup := by
    rw [hnames]
    exact config.databases.nodup
  have hentries : (registerAll (config.getDefault?.map Prod.fst) empty entries).databases.entries
      = entries.map fun entry => (entry.name, entry) := entries_registerAll hnodup
  have hdefault : (registerAll (config.getDefault?.map Prod.fst) empty entries).default
      = config.getDefault?.map Prod.fst := by
    -- The default is among the databases, so the first one does not stay in its place.
    rw [default_registerAll consistent_empty hnodup]
    rcases DatabasesConfig.default_mem_or_names_eq_nil hcheck with
      ⟨name, hmem, hname⟩ | ⟨hnil, hnone⟩
    · rw [← hnames] at hmem
      obtain ⟨entry, hentry, rfl⟩ := List.mem_map.mp hmem
      rw [hname, if_pos (List.mem_map_of_mem hentry)]
    · obtain rfl : entries = [] := List.map_eq_nil_iff.mp (hnames.trans hnil)
      simp [hnone, empty]
  refine ⟨?_, ?_, hdefault, ?_, ?_⟩
  · show List.map Prod.fst _ = _
    rw [hentries, List.map_map, ← hnames]
    rfl
  · rw [hentries, List.forall₂_map_right_iff]
    refine h.imp fun c entry hentry => ?_
    obtain ⟨d, hd, rfl⟩ := except_map_eq_ok_iff.mp hentry
    exact ⟨rfl, rfl, DatabaseConfig.dialectIn_eq_ok_iff.mp hd, rfl⟩
  · rw [hdefault, DatabasesConfig.map_fst_getDefault? hcheck]
  · rw [hdefault]
    rcases DatabasesConfig.default_mem_or_names_eq_nil hcheck with
      ⟨name, hmem, hname⟩ | ⟨hnil, hnone⟩
    · exact iff_of_false (by simp [hname]) (List.ne_nil_of_mem hmem)
    · exact iff_of_true hnone hnil

/-- A configuration that passes the check fails for the entry of a database or not at all. -/
theorem ofConfigWith_eq_of_validate (h : config.validate = .ok ()) :
    ofConfigWith config dialects = (config.databases.entries.mapM (entryOf dialects)).map
      (registerAll (config.getDefault?.map Prod.fst) empty) := by
  rw [ofConfigWith, h]
  exact foldlM_registerConfigured config.databases.entries

/-- The check comes before the adapters, and these in the order of the databases. -/
theorem errorOf?_ofConfigWith (config : DatabasesConfig) (dialects : DialectRegistry) :
    errorOf? (ofConfigWith config dialects)
      = ((errorOf? config.validate).map ConfigFault.toError).or
        (config.databases.entries.findSome? fun entry =>
          errorOf? (entry.2.dialectIn dialects)) := by
  cases hvalidate : config.validate with
  | error fault =>
    rw [ofConfigWith, hvalidate]
    rfl
  | ok checked =>
    rw [ofConfigWith_eq_of_validate hvalidate, errorOf?_map, errorOf?_mapM]
    simp only [entryOf, errorOf?_map]
    rfl

/-- A registry can be made of a configuration that has been checked if the adapter of every database
is known, and it mirrors the configuration. Otherwise the error is that of the check, or that of the
first database whose adapter is not known. -/
theorem mirrors_of_ofConfigWith (config : DatabasesConfig) (dialects : DialectRegistry) :
    ((∃ r, ofConfigWith config dialects = .ok r) ↔
        config.validate = .ok () ∧ ∀ entry ∈ config.databases.entries,
          ∃ key d, entry.2.adapterKey = .ok key ∧ dialects.lookup key = .ok d) ∧
      errorOf? (ofConfigWith config dialects)
        = ((errorOf? config.validate).map ConfigFault.toError).or
          (config.databases.entries.findSome? fun entry =>
            errorOf? (entry.2.dialectIn dialects)) ∧
      ∀ r, ofConfigWith config dialects = .ok r → r.Mirrors config dialects := by
  refine ⟨?_, errorOf?_ofConfigWith config dialects, fun r hr => ?_⟩
  · -- Success is the absence of the first error, and that is known in full.
    rw [← errorOf?_eq_none_iff, errorOf?_ofConfigWith, Option.or_eq_none_iff,
      Option.map_eq_none_iff, List.findSome?_eq_none_iff, errorOf?_eq_none_iff]
    refine and_congr ⟨fun ⟨_, h⟩ => h, fun h => ⟨_, h⟩⟩ (forall₂_congr fun entry _ => ?_)
    simp only [errorOf?_eq_none_iff, DatabaseConfig.dialectIn_eq_ok_iff]
    exact exists_comm.trans (by simp)
  · cases hvalidate : config.validate with
    | error fault =>
      rw [ofConfigWith, hvalidate] at hr
      cases hr
    | ok checked =>
      rw [ofConfigWith_eq_of_validate hvalidate] at hr
      obtain ⟨entries, hentries, rfl⟩ := except_map_eq_ok_iff.mp hr
      exact mirrors_registerAll (DatabasesConfig.checkDefault_of_validate hvalidate)
        (mapM_eq_ok_iff.mp hentries)

end DatabaseRegistry

end SqlSelect
