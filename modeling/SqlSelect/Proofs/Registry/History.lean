import SqlSelect.Registry.Call

/-!
# `SqlSelect.Proofs.Registry.History`: a registry by the calls that made it

Every call changes the databases of a registry, or the name of the default one, or both, each under
a condition of its own. `RegistryCall.refused_or_made` says all that a call can do, and what a
registry answers after many calls comes from it.

* `DatabaseRegistry.Consistent`: how the default and the databases belong together. Every call keeps
  it, so it is so after any number of calls.
* `DatabaseRegistry.LastEntry`: the database that was registered last under a name and not removed
  since. `DatabaseRegistry.get?_after` finds it, and no other one.
* `DatabaseRegistry.consistent_after`: both, and what a registry resolves.
-/

set_option autoImplicit false

namespace SqlSelect

namespace RegistryCall

/-! ### One call -/

/-- Whether a registry refuses a call. -/
def Refused (r : DatabaseRegistry) : RegistryCall → Prop
  | setDefault name => name ∉ r.names
  | remove name => name ∉ r.names ∨ r.default = some name
  | register _ _ | clear => False

/-- What a call makes of a registry that does not refuse it. -/
def effect (r : DatabaseRegistry) : RegistryCall → DatabaseRegistry
  | register entry asDefault => r.register entry asDefault
  | setDefault name => { r with default := some name }
  | remove name => { r with databases := r.databases.erase name }
  | clear => .empty

/-- Whether a call decides on the database under a name. -/
def Concerns (name : String) : RegistryCall → Prop
  | register entry _ => entry.name = name
  | setDefault _ => False
  | remove other => other = name
  | clear => True

/-- A call is refused with an error, or has its effect. -/
theorem result_cases (r : DatabaseRegistry) (call : RegistryCall) :
    (call.Refused r ∧ ∃ e, call.result r = .error e) ∨
      (¬ call.Refused r ∧ call.result r = .ok (call.effect r)) := by
  have hcontains : ∀ name, r.contains name ↔ name ∈ r.names := r.databases.contains_iff
  cases call with
  | register entry asDefault => exact .inr ⟨id, rfl⟩
  | clear => exact .inr ⟨id, rfl⟩
  | setDefault name =>
    show (name ∉ r.names ∧ ∃ e, r.setDefault name = .error e) ∨ _
    unfold DatabaseRegistry.setDefault
    by_cases hname : r.contains name
    · refine .inr ⟨not_not_intro ((hcontains name).mp hname), ?_⟩
      exact if_pos hname
    · refine .inl ⟨fun h => hname ((hcontains name).mpr h), ?_⟩
      exact ⟨_, if_neg hname⟩
  | remove name =>
    simp only [Refused, result, effect, DatabaseRegistry.remove, ← hcontains]
    by_cases hdefault : r.default = some name
    · simp [hdefault]
    · by_cases hname : r.contains name <;> simp [hdefault, hname]

/-- A call is refused and changes nothing, or it is made as a whole. -/
theorem refused_or_made (r : DatabaseRegistry) (call : RegistryCall) :
    (call.Refused r ∧ (∃ e, call.outcome r = .error e) ∧ call.next r = r) ∨
      (¬ call.Refused r ∧ call.outcome r = .ok () ∧ call.next r = call.effect r) := by
  rw [outcome_eq, next_eq]
  rcases call.result_cases r with ⟨hrefused, e, hresult⟩ | ⟨hmade, hresult⟩
  · rw [hresult]
    exact .inl ⟨hrefused, ⟨e, rfl⟩, rfl⟩
  · rw [hresult]
    exact .inr ⟨hmade, rfl, rfl⟩

end RegistryCall

namespace DatabaseRegistry

variable {r : DatabaseRegistry}

/-! ### The default -/

/-- There is a default exactly where there are databases, and it is one of them. -/
structure Consistent (r : DatabaseRegistry) : Prop where
  nodup : r.names.Nodup
  default_isSome_iff : r.default.isSome ↔ r.names ≠ []
  default_mem : ∀ name, r.default = some name → name ∈ r.names

/-- Where the default is one of the databases, there is one as soon as there are databases. -/
theorem Consistent.of_default (hmem : ∀ name, r.default = some name → name ∈ r.names)
    (hsome : r.names ≠ [] → r.default.isSome) : r.Consistent where
  nodup := r.databases.nodup
  default_isSome_iff := by
    refine ⟨fun h => ?_, hsome⟩
    obtain ⟨name, hname⟩ := Option.isSome_iff_exists.mp h
    exact List.ne_nil_of_mem (hmem name hname)
  default_mem := hmem

/-- An empty registry has no default and no database that it could lack. -/
theorem consistent_empty : empty.Consistent :=
  .of_default (fun name h => by cases h) (fun h => absurd rfl h)

/-- Registering under a known name adds no name, and under a new one adds it at the end. -/
theorem names_register (entry : DatabaseEntry) (asDefault : Bool) :
    (r.register entry asDefault).names
      = if entry.name ∈ r.names then r.names else r.names ++ [entry.name] :=
  NamedList.names_put r.databases entry.name entry

/-- No registration takes a name away. -/
theorem mem_names_register (entry : DatabaseEntry) (asDefault : Bool) (name : String) :
    name ∈ (r.register entry asDefault).names ↔ name ∈ r.names ∨ name = entry.name := by
  rw [names_register]
  split
  · rename_i hentry
    exact ⟨.inl, fun h => h.elim id fun heq => heq ▸ hentry⟩
  · simp

/-- Registering makes a database the default if it should be or if it is the only one by then. -/
theorem default_register_eq (entry : DatabaseEntry) (asDefault : Bool) :
    (r.register entry asDefault).default
      = if asDefault || (r.register entry asDefault).names.length == 1 then some entry.name
        else r.default := by
  show (if asDefault || (r.databases.put entry.name entry).size == 1 then _ else _) = _
  rw [← NamedList.length_names]
  rfl

/-- A database that is registered becomes the default, or there was another database before. -/
theorem default_register (entry : DatabaseEntry) (asDefault : Bool) :
    (r.register entry asDefault).default = some entry.name ∨
      (r.register entry asDefault).default = r.default ∧ r.names ≠ [] := by
  rw [default_register_eq]
  split
  · exact .inl rfl
  · rename_i hdefault
    refine .inr ⟨rfl, fun hnil => hdefault ?_⟩
    rw [names_register, hnil, if_neg List.not_mem_nil]
    exact Bool.or_true asDefault

/-- A call leaves a consistent registry behind. Registering is the only call that adds a database,
and taking one out is refused for the default. -/
theorem Consistent.effect (h : r.Consistent) {call : RegistryCall} (hmade : ¬ call.Refused r) :
    (call.effect r).Consistent := by
  cases call with
  | register entry asDefault =>
    refine .of_default (fun name hname => ?_) fun _ => ?_
    · -- The default is the new database, or the old default, and that is still there.
      show name ∈ (r.register entry asDefault).names
      rw [mem_names_register]
      rcases default_register (r := r) entry asDefault with hentry | ⟨hold, -⟩
      · exact .inr (Option.some.inj (hname.symm.trans hentry))
      · exact .inl (h.default_mem name (hold ▸ hname))
    · show (r.register entry asDefault).default.isSome
      rcases default_register (r := r) entry asDefault with hentry | ⟨hold, hne⟩
      · rw [hentry]
        rfl
      · rw [hold]
        exact h.default_isSome_iff.mpr hne
  | setDefault name =>
    refine .of_default (fun other hother => ?_) fun _ => rfl
    cases hother
    exact Classical.not_not.mp hmade
  | remove name =>
    obtain ⟨hname, hdefault⟩ := not_or.mp hmade
    refine .of_default (fun other hother => ?_) fun _ => ?_
    · -- The database that is taken out is not the default one.
      show other ∈ (r.databases.erase name).names
      rw [NamedList.names_erase, List.mem_filter]
      refine ⟨h.default_mem other hother, ?_⟩
      have hother' : r.default = some other := hother
      exact bne_iff_ne.mpr fun heq => hdefault (heq ▸ hother')
    · refine h.default_isSome_iff.mpr fun hnil => ?_
      exact hname (hnil ▸ List.not_mem_nil)
  | clear => exact consistent_empty

/-- A refused call keeps what holds by changing nothing, and a call that is not refused by its
effect. -/
theorem Consistent.next (h : r.Consistent) (call : RegistryCall) : (call.next r).Consistent := by
  rcases call.refused_or_made r with ⟨-, -, hsame⟩ | ⟨hmade, -, heffect⟩
  · rwa [hsame]
  · rw [heffect]
    exact h.effect hmade

/-- The registry that some calls leave behind is consistent. -/
theorem Consistent.foldl_next (h : r.Consistent) (calls : List RegistryCall) :
    (calls.foldl RegistryCall.next r).Consistent := by
  induction calls generalizing r with
  | nil => exact h
  | cons call calls ih => exact ih (h.next call)

/-! ### The databases -/

/-- The database that some calls have registered last under a name, if no call behind it has removed
it. -/
def LastEntry (name : String) (entry : DatabaseEntry) (history : List RegistryCall) : Prop :=
  ∃ before asDefault later, history = before ++ .register entry asDefault :: later ∧
    entry.name = name ∧ ∀ call ∈ later, ¬ call.Concerns name

variable {name : String} {entry : DatabaseEntry} {history : List RegistryCall}

/-- Before any call no database was registered. -/
theorem not_lastEntry_nil : ¬ LastEntry name entry [] := by
  rintro ⟨before, asDefault, later, hhistory, -⟩
  simp at hhistory

/-- One more call registers the database itself, or it has nothing to do with its name. -/
theorem lastEntry_append_singleton {call : RegistryCall} :
    LastEntry name entry (history ++ [call]) ↔
      (∃ asDefault, call = .register entry asDefault ∧ entry.name = name) ∨
        (¬ call.Concerns name ∧ LastEntry name entry history) := by
  constructor
  · rintro ⟨before, asDefault, later, hhistory, hname, hlater⟩
    -- The call is the one that registers, or the last one behind that.
    rcases List.eq_nil_or_concat later with rfl | ⟨later, last, rfl⟩
    · have hcall := (List.append_inj' hhistory rfl).2
      exact .inl ⟨asDefault, List.singleton_inj.mp hcall, hname⟩
    · rw [List.concat_eq_append] at hhistory hlater
      have hsplit : history ++ [call]
          = (before ++ .register entry asDefault :: later) ++ [last] := by
        rw [hhistory, List.append_assoc]
        rfl
      obtain ⟨hbefore, hcall⟩ := List.append_inj' hsplit rfl
      obtain rfl := List.singleton_inj.mp hcall
      refine .inr ⟨hlater call (by simp), before, asDefault, later, hbefore, hname, ?_⟩
      exact fun other hother => hlater other (List.mem_append_left _ hother)
  · rintro (⟨asDefault, rfl, hname⟩ | ⟨hcall, before, asDefault, later, rfl, hname, hlater⟩)
    · exact ⟨history, asDefault, [], rfl, hname, by simp⟩
    · refine ⟨before, asDefault, later ++ [call], by simp, hname, fun other hother => ?_⟩
      rcases List.mem_append.mp hother with hother | hother
      · exact hlater other hother
      · exact List.mem_singleton.mp hother ▸ hcall

/-- The database under a name after a call that is made. -/
theorem get?_effect (call : RegistryCall) :
    (call.effect r).get? name = some entry ↔
      (∃ asDefault, call = .register entry asDefault ∧ entry.name = name) ∨
        (¬ call.Concerns name ∧ r.get? name = some entry) := by
  cases call with
  | register other asDefault =>
    show (r.databases.put other.name other).get? name = some entry ↔ _
    rw [NamedList.get?_put]
    by_cases hname : name = other.name
    · subst hname
      simp only [if_true, Option.some.injEq, RegistryCall.register.injEq, RegistryCall.Concerns,
        not_true, false_and, or_false]
      exact ⟨fun h => ⟨asDefault, ⟨h, rfl⟩, h ▸ rfl⟩, fun ⟨_, h, _⟩ => h.1⟩
    · rw [if_neg hname]
      refine ⟨fun h => .inr ⟨fun heq => hname heq.symm, h⟩, ?_⟩
      rintro (⟨_, hcall, hentry⟩ | ⟨-, h⟩)
      · -- A registration under another name puts no entry here.
        cases hcall
        exact absurd hentry.symm hname
      · exact h
  | setDefault other => simp [RegistryCall.effect, RegistryCall.Concerns, get?]
  | remove other =>
    show (r.databases.erase other).get? name = some entry ↔ _
    rw [NamedList.get?_erase]
    by_cases hname : name = other
    · simp [hname, RegistryCall.Concerns]
    · simp [hname, Ne.symm hname, RegistryCall.Concerns, get?]
  | clear =>
    simp [RegistryCall.effect, RegistryCall.Concerns, get?, empty, NamedList.get?, NamedList.empty]

/-- The history goes on where the registry does: with the calls that are made. -/
theorem get?_foldl_next (h : ∀ name entry, r.get? name = some entry ↔ LastEntry name entry history)
    (calls : List RegistryCall) (name : String) (entry : DatabaseEntry) :
    (calls.foldl RegistryCall.next r).get? name = some entry ↔
      LastEntry name entry (history ++ acceptedFrom r calls) := by
  induction calls generalizing r history with
  | nil =>
    rw [acceptedFrom, List.append_nil]
    exact h name entry
  | cons call calls ih =>
    rw [List.foldl_cons, acceptedFrom]
    rcases call.refused_or_made r with ⟨-, ⟨e, he⟩, hsame⟩ | ⟨-, hok, heffect⟩
    · -- Neither the registry nor the history takes notice of a refused call.
      rw [he, hsame]
      exact ih h
    · rw [hok, List.append_cons]
      refine ih fun other database => ?_
      rw [heffect, get?_effect, lastEntry_append_singleton, h]

/-- After any calls a name has the database that was registered last under it by a call that was not
refused. -/
theorem get?_after (calls : List RegistryCall) (name : String) (entry : DatabaseEntry) :
    (after calls).get? name = some entry ↔ LastEntry name entry (accepted calls) := by
  have hempty : ∀ name entry, empty.get? name = some entry ↔ LastEntry name entry [] := by
    intro name entry
    exact iff_of_false (by simp [get?, empty, NamedList.get?, NamedList.empty]) not_lastEntry_nil
  exact get?_foldl_next hempty calls name entry

/-! ### What a registry resolves -/

/-- Getting a database succeeds exactly if it is there. -/
theorem get_eq_ok_iff : r.get name = .ok entry ↔ r.get? name = some entry := by
  unfold get
  cases r.get? name <;> simp

/-- Where there is a default, it is found if there are databases. -/
theorem Consistent.exists_resolve_none_iff (h : r.Consistent) :
    (∃ entry, r.resolve none = .ok entry) ↔ r.names ≠ [] := by
  rw [← h.default_isSome_iff]
  simp only [resolve, getDefault]
  cases hdefault : r.default with
  | none => simp
  | some name =>
    have hname := (r.databases.isSome_get?_iff name).mpr (h.default_mem name hdefault)
    obtain ⟨entry, hentry⟩ := Option.isSome_iff_exists.mp hname
    exact ⟨fun _ => rfl, fun _ => ⟨entry, get_eq_ok_iff.mpr hentry⟩⟩

/-- After any calls, failed ones among them, the default is one of the databases and there is one
exactly where there are databases. So the default is resolved exactly where there are databases, and
it is the database with the name of the default. A name is resolved to the database that was
registered last under it, unless it has been removed since. A call is refused for a name that is not
there, and where the default is to be removed; then the registry is as it was. -/
theorem consistent_after (calls : List RegistryCall) :
    (after calls).Consistent ∧
      ((∃ entry, (after calls).resolve none = .ok entry) ↔ (after calls).names ≠ []) ∧
      (∀ entry, (after calls).resolve none = .ok entry →
        (after calls).default = some entry.name) ∧
      (∀ name entry, (after calls).resolve (some name) = .ok entry ↔
        LastEntry name entry (accepted calls)) ∧
      ∀ (r : DatabaseRegistry) (call : RegistryCall),
        ((∃ e, call.outcome r = .error e) ↔ call.Refused r) ∧
          (call.Refused r → call.next r = r) := by
  have hconsistent := consistent_empty.foldl_next calls
  refine ⟨hconsistent, hconsistent.exists_resolve_none_iff, fun entry h => ?_, fun name entry => ?_,
    fun r call => ?_⟩
  · simp only [resolve, getDefault] at h
    split at h
    · rename_i name hdefault
      -- An entry is kept under its own name, as it was registered there.
      obtain ⟨-, -, -, -, hname, -⟩ := (get?_after calls name entry).mp (get_eq_ok_iff.mp h)
      rw [hdefault, hname]
    · cases h
  · exact get_eq_ok_iff.trans (get?_after calls name entry)
  · rcases call.refused_or_made r with ⟨hrefused, hfails, hsame⟩ | ⟨hmade, hok, -⟩
    · exact ⟨iff_of_true hfails hrefused, fun _ => hsame⟩
    · refine ⟨iff_of_false ?_ hmade, fun hrefused => absurd hrefused hmade⟩
      rintro ⟨e, he⟩
      rw [hok] at he
      cases he

end DatabaseRegistry

end SqlSelect
