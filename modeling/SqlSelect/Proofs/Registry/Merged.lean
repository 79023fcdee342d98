import SqlSelect.Proofs.Registry.Configured

/-!
# `SqlSelect.Proofs.Registry.Merged`: one configuration over another

Merging puts the databases of a configuration into those of another one, and its default in the
place of the other one's if it names one. A default can also be a mark on a database, and merging
does not look at the marks. So two marks can come together that were in different configurations,
and a mark gives way to a default that the other configuration names.

* `DatabasesConfig.validate_eq_ok_iff`: when a configuration passes the check, part by part.
* `DatabasesConfig.mem_marked_merge`: the marks after merging.
* `DatabasesConfig.merge_of_valid`: the databases, the check and the default after merging.
* `DatabasesConfig.merge_loses_mark`: two pairs of configurations in which a mark is lost.
-/

set_option autoImplicit false

namespace SqlSelect.DatabasesConfig

variable {config other : DatabasesConfig}

/-! ### The check -/

/-- The default is checked to be one of the databases. -/
theorem checkDefault_eq_ok_iff : config.checkDefault = .ok () ↔
    ∀ name, config.default = some name → name ∈ config.databases.names := by
  constructor
  · intro h name hname
    exact mem_names_of_checkDefault h hname
  · intro h
    rw [checkDefault]
    cases hdefault : config.default with
    | none => rfl
    | some name => exact if_pos ((config.databases.contains_iff name).mpr (h name hdefault))

/-- No database is marked twice. -/
theorem nodup_marked (config : DatabasesConfig) : config.marked.Nodup :=
  (List.filter_sublist.map Prod.fst).nodup config.databases.nodup

/-- The marked names are those of the databases with a mark. -/
theorem mem_marked_iff {name : String} : name ∈ config.marked ↔
    ∃ c, config.databases.get? name = some c ∧ c.isDefault = true := by
  simp only [NamedList.get?_eq_some_iff, marked, List.mem_map, List.mem_filter, Prod.exists]
  constructor
  · rintro ⟨n, c, ⟨hmem, hmark⟩, rfl⟩
    exact ⟨c, hmem, hmark⟩
  · rintro ⟨c, hmem, hmark⟩
    exact ⟨name, c, ⟨hmem, hmark⟩, rfl⟩

/-- Every mark is on a database. -/
theorem mem_names_of_mem_marked {name : String} (h : name ∈ config.marked) :
    name ∈ config.databases.names := by
  obtain ⟨c, hc, -⟩ := mem_marked_iff.mp h
  exact (config.databases.isSome_get?_iff name).mp (by rw [hc]; rfl)

/-- There is at most one mark if any two marks are on one database. -/
theorem checkMarked_eq_ok_iff : config.checkMarked = .ok () ↔
    ∀ a ∈ config.marked, ∀ b ∈ config.marked, a = b := by
  have hnodup := config.nodup_marked
  rw [checkMarked]
  cases hmarked : config.marked with
  | nil => simp
  | cons first rest =>
    cases rest with
    | nil => simp
    | cons second rest =>
      rw [hmarked] at hnodup
      have hne : first ≠ second := fun heq =>
        (List.nodup_cons.mp hnodup).1 (heq ▸ List.mem_cons_self)
      refine iff_of_false (by simp) fun h => hne ?_
      exact h first (by simp) second (by simp)

/-- A database is checked to have an adapter that is given or that its URL tells. -/
theorem checkEntry_eq_ok_iff {entry : String × DatabaseConfig} :
    checkEntry entry = .ok () ↔ ∃ key, entry.2.adapterKey = .ok key := by
  rw [checkEntry]
  cases entry.2.adapterKey <;> simp

/-- A configuration passes the check if its default, its marks and each of its databases do. -/
theorem validate_eq_ok_iff : config.validate = .ok () ↔
    config.checkDefault = .ok () ∧ config.checkMarked = .ok () ∧
      ∀ entry ∈ config.databases.entries, ∃ key, entry.2.adapterKey = .ok key := by
  have hentries : config.databases.entries.forM checkEntry = .ok () ↔
      ∀ entry ∈ config.databases.entries, ∃ key, entry.2.adapterKey = .ok key :=
    forM_eq_ok_iff.trans (forall₂_congr fun _ _ => checkEntry_eq_ok_iff)
  rw [← hentries, validate]
  cases config.checkDefault with
  | error fault => simp
  | ok checked =>
    cases config.checkMarked with
    | error fault => simp
    | ok checked => simp

/-! ### The databases and their marks -/

/-- A database of the other configuration hides one of the same name. -/
theorem get?_merge (config other : DatabasesConfig) (name : String) :
    (config.merge other).databases.get? name
      = (other.databases.get? name).or (config.databases.get? name) :=
  NamedList.get?_putAll config.databases other.databases name

/-- Known names stay in their places, and the new ones follow in their order. -/
theorem names_merge (config other : DatabasesConfig) :
    (config.merge other).databases.names = config.databases.names ++
      other.databases.names.filter (· ∉ config.databases.names) :=
  NamedList.names_putAll config.databases other.databases

/-- The databases after merging are those of both. -/
theorem mem_names_merge {name : String} : name ∈ (config.merge other).databases.names ↔
    name ∈ config.databases.names ∨ name ∈ other.databases.names := by
  rw [names_merge, List.mem_append, List.mem_filter, decide_eq_true_eq]
  tauto

/-- A mark of the first configuration is lost with its database, and all others stay. -/
theorem mem_marked_merge {name : String} : name ∈ (config.merge other).marked ↔
    name ∈ other.marked ∨ (name ∈ config.marked ∧ name ∉ other.databases.names) := by
  rw [mem_marked_iff, mem_marked_iff, mem_marked_iff, get?_merge,
    ← other.databases.isSome_get?_iff]
  cases other.databases.get? name <;> simp

/-- Merging keeps a default that is a database, whichever of the two named it. -/
theorem checkDefault_merge (hconfig : config.checkDefault = .ok ())
    (hother : other.checkDefault = .ok ()) : (config.merge other).checkDefault = .ok () := by
  rw [checkDefault_eq_ok_iff] at hconfig hother ⊢
  intro name hname
  have hor : other.default.or config.default = some name := hname
  rw [mem_names_merge]
  rcases Option.or_eq_some_iff.mp hor with hdefault | ⟨-, hdefault⟩
  · exact .inr (hother name hdefault)
  · exact .inl (hconfig name hdefault)

/-- Every database comes from one of the two configurations. -/
theorem mem_entries_of_merge {entry : String × DatabaseConfig}
    (h : entry ∈ (config.merge other).databases.entries) :
    entry ∈ other.databases.entries ∨ entry ∈ config.databases.entries := by
  obtain ⟨name, c⟩ := entry
  rw [← NamedList.get?_eq_some_iff, get?_merge] at h
  rcases Option.or_eq_some_iff.mp h with hfound | ⟨-, hfound⟩
  · exact .inl (NamedList.get?_eq_some_iff.mp hfound)
  · exact .inr (NamedList.get?_eq_some_iff.mp hfound)

/-- Only the marks can be at fault after merging. -/
theorem validate_merge (hconfig : config.validate = .ok ()) (hother : other.validate = .ok ()) :
    (config.merge other).validate = (config.merge other).checkMarked := by
  obtain ⟨hconfigDefault, -, hconfigAdapters⟩ := validate_eq_ok_iff.mp hconfig
  obtain ⟨hotherDefault, -, hotherAdapters⟩ := validate_eq_ok_iff.mp hother
  have hentries : (config.merge other).databases.entries.forM checkEntry = .ok () := by
    refine forM_eq_ok_iff.mpr fun entry hentry => checkEntry_eq_ok_iff.mpr ?_
    exact (mem_entries_of_merge hentry).elim (hotherAdapters entry) (hconfigAdapters entry)
  rw [validate, checkDefault_merge hconfigDefault hotherDefault, except_bind_ok]
  cases (config.merge other).checkMarked with
  | error fault => rfl
  | ok checked => exact hentries

/-- The marks agree exactly if no mark of the first configuration is left beside one of the
other. -/
theorem checkMarked_merge (hconfig : config.checkMarked = .ok ())
    (hother : other.checkMarked = .ok ()) : (config.merge other).checkMarked = .ok () ↔
      ∀ name ∈ config.marked, name ∉ other.databases.names → other.marked = [] := by
  rw [checkMarked_eq_ok_iff] at hconfig hother ⊢
  constructor
  · intro h name hname hkept
    refine List.eq_nil_iff_forall_not_mem.mpr fun mark hmark => hkept ?_
    -- The two marks are one name, and that name is in the other configuration after all.
    have hsame := h name (mem_marked_merge.mpr (.inr ⟨hname, hkept⟩)) mark
      (mem_marked_merge.mpr (.inl hmark))
    exact hsame ▸ mem_names_of_mem_marked hmark
  · intro h a ha b hb
    -- Marks of one side agree by its own check; marks of both sides cannot occur together.
    rcases mem_marked_merge.mp ha with ha | ⟨ha, hakept⟩
    · rcases mem_marked_merge.mp hb with hb | ⟨hb, hbkept⟩
      · exact hother a ha b hb
      · rw [h b hb hbkept] at ha
        cases ha
    · rcases mem_marked_merge.mp hb with hb | ⟨hb, -⟩
      · rw [h a ha hakept] at hb
        cases hb
      · exact hconfig a ha b hb

/-! ### The default -/

/-- The settings of the default are those of the database with its name. -/
theorem get?_of_getDefault? {name : String} {c : DatabaseConfig}
    (h : config.getDefault? = some (name, c)) : config.databases.get? name = some c := by
  rw [getDefault?] at h
  cases hdefault : config.default with
  | some other =>
    simp only [hdefault, Option.map_eq_some_iff, Prod.mk.injEq] at h
    obtain ⟨database, hdatabase, rfl, rfl⟩ := h
    exact hdatabase
  | none =>
    rw [hdefault] at h
    dsimp only at h
    rw [NamedList.get?_eq_some_iff]
    split at h
    · rename_i entry hmarked
      cases h
      exact List.mem_of_find?_eq_some hmarked
    · exact List.mem_of_head? h

/-- The settings of the other configuration go with the names in it. -/
theorem getDefault?_merge_eq_iff : (config.merge other).getDefault? = other.getDefault? ↔
    (config.merge other).getDefault?.map Prod.fst = other.getDefault?.map Prod.fst := by
  refine ⟨fun h => by rw [h], fun h => ?_⟩
  cases hother : other.getDefault? with
  | none =>
    rw [hother] at h
    exact Option.map_eq_none_iff.mp h
  | some entry =>
    obtain ⟨name, c⟩ := entry
    rw [hother] at h
    obtain ⟨⟨name, c'⟩, hmerged, rfl⟩ := Option.map_eq_some_iff.mp h
    have hsettings := get?_of_getDefault? hmerged
    rw [get?_merge, get?_of_getDefault? hother] at hsettings
    cases hsettings
    exact hmerged

/-- A default that the other configuration names is the default. -/
theorem getDefault?_merge_of_default (hother : other.checkDefault = .ok ())
    (hconfig : config.checkDefault = .ok ()) (hdefault : other.default.isSome) :
    (config.merge other).getDefault? = other.getDefault? := by
  obtain ⟨name, hname⟩ := Option.isSome_iff_exists.mp hdefault
  have hmerged : (config.merge other).default = some name := by
    show other.default.or config.default = _
    rw [hname, Option.some_or]
  rw [getDefault?_merge_eq_iff, map_fst_getDefault? (checkDefault_merge hconfig hother),
    map_fst_getDefault? hother, hmerged, hname, Option.some_or, Option.some_or]

/-- A database that the other configuration marks is the default unless the first one names
another. -/
theorem getDefault?_merge_of_marked (hconfig : config.checkDefault = .ok ())
    (hother : other.checkDefault = .ok ()) (hdefault : other.default = none)
    (hmarked : other.marked ≠ []) (hmerged : (config.merge other).checkMarked = .ok ()) :
    (config.merge other).getDefault? = other.getDefault? ↔
      config.default = none ∨ config.default = other.getDefault?.map Prod.fst := by
  obtain ⟨mark, hmark⟩ := Option.isSome_iff_exists.mp (List.isSome_head?.mpr hmarked)
  have hotherName : other.getDefault?.map Prod.fst = some mark := by
    rw [map_fst_getDefault? hother, hdefault, hmark, Option.none_or, Option.some_or]
  have hrule : (config.merge other).default = config.default := by
    show other.default.or config.default = _
    rw [hdefault, Option.none_or]
  rw [getDefault?_merge_eq_iff, hotherName,
    map_fst_getDefault? (checkDefault_merge hconfig hother), hrule]
  cases hname : config.default with
  | some name => simp
  | none =>
    -- The mark of the other configuration is the only one that is left.
    have hmem : mark ∈ (config.merge other).marked :=
      mem_marked_merge.mpr (.inl (List.mem_of_head? hmark))
    obtain ⟨first, hfirst⟩ := Option.isSome_iff_exists.mp
      (List.isSome_head?.mpr (List.ne_nil_of_mem hmem))
    have honly := checkMarked_eq_ok_iff.mp hmerged first (List.mem_of_head? hfirst) mark hmem
    simp [hfirst, honly]

/-- Two configurations that pass the check, one put over the other. The databases of the other one
come with their settings, and the rest of the first one stays as it is. The result passes the check
unless a mark of the first one is left beside one of the other, and otherwise the error names all
marks. A default that the other one names wins. One that it marks wins, too, unless the first one
names a default, which is kept. -/
theorem merge_of_valid (hconfig : config.validate = .ok ()) (hother : other.validate = .ok ()) :
    (config.merge other).databases.names = config.databases.names ++
        other.databases.names.filter (· ∉ config.databases.names) ∧
      (∀ name, (config.merge other).databases.get? name
        = (other.databases.get? name).or (config.databases.get? name)) ∧
      ((config.merge other).validate = .ok () ↔
        ∀ name ∈ config.marked, name ∉ other.databases.names → other.marked = []) ∧
      (∀ fault, (config.merge other).validate = .error fault →
        fault = .severalDefaults (config.merge other).marked) ∧
      (other.default.isSome → (config.merge other).getDefault? = other.getDefault?) ∧
      (other.default = none → other.marked ≠ [] → (config.merge other).validate = .ok () →
        ((config.merge other).getDefault? = other.getDefault? ↔
          config.default = none ∨ config.default = other.getDefault?.map Prod.fst)) := by
  have hmerged := validate_merge hconfig hother
  obtain ⟨hconfigDefault, hconfigMarked, -⟩ := validate_eq_ok_iff.mp hconfig
  obtain ⟨hotherDefault, hotherMarked, -⟩ := validate_eq_ok_iff.mp hother
  refine ⟨names_merge config other, get?_merge config other, ?_, ?_,
    getDefault?_merge_of_default hotherDefault hconfigDefault, ?_⟩
  · rw [hmerged]
    exact checkMarked_merge hconfigMarked hotherMarked
  · intro fault hfault
    -- Only the marks are left to check, so no other fault can come up.
    rw [hmerged, checkMarked] at hfault
    split at hfault
    · cases hfault
      rfl
    · cases hfault
  · intro hdefault hmarked hvalid
    rw [hmerged] at hvalid
    exact getDefault?_merge_of_marked hconfigDefault hotherDefault hdefault hmarked hvalid

/-- A configuration of databases with the given adapters, some of them marked. -/
def ofAdapters (default : Option String) (databases : List (String × String × Bool)) :
    DatabasesConfig where
  default
  databases := .ofEntries (databases.map fun (name, adapter, isDefault) =>
    (name, { adapter := some adapter, isDefault }))

/-- One database that is marked. -/
def markedAs (name adapter : String) : DatabasesConfig :=
  ofAdapters none [(name, adapter, true)]

/-- Behind a database of its own, the other configuration has one that is marked in the first, and
takes its mark. -/
theorem merge_of_valid_movedMark :
    let config := markedAs "main" "mysql"
    let other := ofAdapters none [("extra", "sqlite", true), ("main", "postgresql", false)]
    config.validate = .ok () ∧ other.validate = .ok () ∧ (config.merge other).validate = .ok () ∧
      (config.merge other).databases.names = ["main", "extra"] ∧
      (config.merge other).getDefault? = other.getDefault? := by
  intro config other
  have hconfig : config.validate = .ok () := rfl
  have hother : other.validate = .ok () := rfl
  obtain ⟨hnames, -, hvalid, -, -, hdefault⟩ := merge_of_valid hconfig hother
  have hmarks : (config.merge other).validate = .ok () := by
    refine hvalid.mpr fun name hname hkept => absurd ?_ hkept
    rw [show config.marked = ["main"] from rfl, List.mem_singleton] at hname
    exact hname ▸ by decide
  exact ⟨hconfig, hother, hmarks, hnames, (hdefault rfl (by decide) hmarks).mpr (.inl rfl)⟩

/-- Two marks come together, and the check fails; and a mark gives way to a default that the first
configuration names, although the other one is to win. -/
theorem merge_loses_mark :
    (markedAs "a" "mysql").validate = .ok () ∧
      (ofAdapters (some "a") [("a", "mysql", false)]).validate = .ok () ∧
      (markedAs "b" "oracle").validate = .ok () ∧
      (markedAs "b" "oracle").getDefault?.map Prod.fst = some "b" ∧
      ((markedAs "a" "mysql").merge (markedAs "b" "oracle")).validate
        = .error (.severalDefaults ["a", "b"]) ∧
      ((ofAdapters (some "a") [("a", "mysql", false)]).merge
        (markedAs "b" "oracle")).getDefault?.map Prod.fst = some "a" :=
  ⟨rfl, rfl, rfl, rfl, rfl, rfl⟩

end SqlSelect.DatabasesConfig
