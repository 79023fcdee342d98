import SqlSelect.Registry.Databases

/-!
# `SqlSelect.Registry.Call`: calls that change a registry

A `RegistryCall` is one call that changes a registry of databases, with its arguments. The call is
made in place: `RegistryCall.run` makes its changes one after the other, and what was changed before
a failure stays changed. `RegistryCall.result` is the registry that the call is to leave behind, or
its error.

* `RegistryCall.run_eq`: a call leaves its result behind, and one that fails leaves the registry as
  it was.
* `DatabaseRegistry.after`, `DatabaseRegistry.accepted`: the registry after some calls, and those
  of the calls that have not failed.
-/

set_option autoImplicit false

namespace SqlSelect

/-- A call that changes a registry of databases. -/
inductive RegistryCall where
  | register (entry : DatabaseEntry) (asDefault : Bool)
  | setDefault (name : String)
  | remove (name : String)
  | clear

namespace RegistryCall

/-- A change of a registry that may fail; what was changed before the failure stays changed. -/
abbrev Change := ExceptT QueryError (StateM DatabaseRegistry)

/-- Makes a call in place. A database is registered before it is counted, and one is taken out
before it is known whether it was there. -/
def run : RegistryCall → Change Unit
  | register entry asDefault => do
    modify fun r => { r with databases := r.databases.put entry.name entry }
    let r ← get
    if asDefault || r.databases.size == 1 then set { r with default := some entry.name }
  | setDefault name => do
    let r ← get
    if !r.contains name then throw (.unknownDatabase name)
    set { r with default := some name }
  | remove name => do
    let r ← get
    if r.default = some name then
      throw (.invalidArgument
        "Cannot remove the default database. Set a different default first.")
    set { r with databases := r.databases.erase name }
    if !r.contains name then throw (.unknownDatabase name)
  | clear => do
    modify fun r => { r with databases := .empty }
    modify fun r => { r with default := none }

/-- The registry that a call is to leave behind. -/
def result (r : DatabaseRegistry) : RegistryCall → Except QueryError DatabaseRegistry
  | register entry asDefault => .ok (r.register entry asDefault)
  | setDefault name => r.setDefault name
  | remove name => r.remove name
  | clear => .ok .empty

/-- What a call returns. -/
def outcome (r : DatabaseRegistry) (call : RegistryCall) : Except QueryError Unit :=
  (Id.run (call.run.run.run r)).1

/-- The registry that a call leaves behind, whether it fails or not. -/
def next (r : DatabaseRegistry) (call : RegistryCall) : DatabaseRegistry :=
  (Id.run (call.run.run.run r)).2

/-! ### The steps of a call, one after the other -/

section Run

variable {α : Type} (r r' : DatabaseRegistry)

/-- Reading the registry changes nothing. -/
theorem run_get_bind (f : DatabaseRegistry → Change α) :
    Id.run ((get >>= f).run.run r) = Id.run ((f r).run.run r) :=
  rfl

/-- What follows sees the registry that was set. -/
theorem run_set_bind (f : PUnit → Change α) :
    Id.run ((set r' >>= f).run.run r) = Id.run ((f ⟨⟩).run.run r') :=
  rfl

/-- And the one that was changed. -/
theorem run_modify_bind (g : DatabaseRegistry → DatabaseRegistry) (f : PUnit → Change α) :
    Id.run ((modify g >>= f).run.run r) = Id.run ((f ⟨⟩).run.run (g r)) :=
  rfl

end Run

/-- Only where a database is taken out does a change come before a failure, and there nothing was
to be taken out. -/
theorem run_eq (r : DatabaseRegistry) (call : RegistryCall) :
    Id.run (call.run.run.run r)
      = match call.result r with
        | .ok r' => (.ok (), r')
        | .error e => (.error e, r) := by
  cases call with
  | register entry asDefault =>
    simp only [run, result, DatabaseRegistry.register, run_modify_bind, run_get_bind]
    by_cases hdefault : (asDefault || (r.databases.put entry.name entry).size == 1) = true
    · rw [if_pos hdefault, if_pos hdefault]
      rfl
    · rw [if_neg hdefault, if_neg hdefault]
      rfl
  | setDefault name =>
    simp only [run, result, DatabaseRegistry.setDefault, run_get_bind]
    cases hname : r.contains name with
    | true => rfl
    | false => rfl
  | remove name =>
    simp only [run, result, DatabaseRegistry.remove, run_get_bind]
    by_cases hdefault : r.default = some name
    · rw [if_pos hdefault, if_pos hdefault]
      rfl
    · rw [if_neg hdefault, if_neg hdefault, run_set_bind]
      cases hname : r.contains name with
      | true => rfl
      | false =>
        have hnot : name ∉ r.databases.names := by
          rw [← NamedList.contains_iff]
          simpa [DatabaseRegistry.contains] using hname
        rw [NamedList.erase_of_notMem hnot]
        rfl
  | clear => rfl

/-- A call leaves its result behind, or the registry as it was. -/
theorem next_eq (r : DatabaseRegistry) (call : RegistryCall) :
    call.next r = (call.result r).toOption.getD r := by
  rw [next, run_eq]
  cases call.result r <;> rfl

/-- A call fails with the error of its result. -/
theorem outcome_eq (r : DatabaseRegistry) (call : RegistryCall) :
    call.outcome r = (call.result r).map fun _ => () := by
  rw [outcome, run_eq]
  cases call.result r <;> rfl

end RegistryCall

namespace DatabaseRegistry

/-- The registry after some calls, from that without databases on. A call that fails does not keep
the others from being made. -/
def after (calls : List RegistryCall) : DatabaseRegistry :=
  calls.foldl RegistryCall.next empty

/-- The calls that do not fail, of some that are made one after the other. -/
def acceptedFrom (r : DatabaseRegistry) : List RegistryCall → List RegistryCall
  | [] => []
  | call :: calls =>
    match call.outcome r with
    | .ok _ => call :: acceptedFrom (call.next r) calls
    | .error _ => acceptedFrom (call.next r) calls

/-- The calls that have not failed, of those made from the registry without databases on. -/
def accepted (calls : List RegistryCall) : List RegistryCall :=
  acceptedFrom empty calls

end DatabaseRegistry

end SqlSelect
