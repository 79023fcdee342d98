import SqlSelect.Proofs.Trimming
import SqlSelect.Registry.Dialects

/-!
# `SqlSelect.Proofs.Registry.DialectKeys`: the dialect of a key after registrations

A key is looked up without the blanks around it and in lower case. It is registered in lower case
with its blanks, so a dialect under a key with blanks around it is not found under any key. Among
the other registrations the last one for a key counts, and where there is none, another name of a
built-in product stands for its own key.

* `DialectCall.lowerAscii_key_eq_iff`: when a registration puts its dialect where it is looked up.
* `DialectRegistry.get?_foldl_register`: the dialect under a name, by the last such registration.
* `DialectRegistry.lookup_of_registrations`: the dialect of a key.
* `DialectRegistry.lookup_of_blankKey`: a dialect that is not found under its own key.
-/

set_option autoImplicit false

namespace SqlSelect

open Text

/-! ### Names as they are compared -/

namespace Backend

/-- The characters of a name as it is compared: trimmed, in lower case. -/
theorem toList_normalName (name : String) :
    (normalName name).toList = (trim name.toList).map Char.toLower := by
  rw [normalName, toList_lowerAscii, String.toList_ofList]

/-- A name as it is compared has no blanks around it. -/
theorem trim_normalName (name : String) :
    trim (normalName name).toList = (normalName name).toList := by
  rw [toList_normalName, trim_map_toLower, trim_trim]

/-- A name without blanks around it is compared in lower case. -/
theorem normalName_of_trim {name : String} (h : trim name.toList = name.toList) :
    normalName name = lowerAscii name := by
  rw [normalName, h, String.ofList_toList]

/-- A name as it is compared is compared as it is. -/
theorem normalName_normalName (name : String) : normalName (normalName name) = normalName name := by
  rw [normalName_of_trim (trim_normalName name), normalName, lowerAscii_lowerAscii]

/-- A product is found under a name exactly if it is under the name as it is compared. -/
theorem ofName?_normalName (name : String) : ofName? (normalName name) = ofName? name := by
  rw [ofName?, ofName?, normalName_normalName]

/-- The first of the names of a product is its key. -/
theorem ofName?_key (b : Backend) : ofName? b.key = some b := by
  cases b <;> decide +kernel

/-- The keys of the built-in products have no blanks around them. -/
theorem trim_key (b : Backend) : trim b.key.toList = b.key.toList := by
  cases b <;> decide +kernel

end Backend

/-! ### Registrations -/

/-- A call that registers a dialect under a key. -/
structure DialectCall where
  key : String
  dialect : Dialect

namespace DialectCall

/-- Whether the key has no blanks around it. -/
def Trimmed (call : DialectCall) : Prop :=
  trim call.key.toList = call.key.toList

instance (call : DialectCall) : Decidable call.Trimmed :=
  inferInstanceAs (Decidable (trim call.key.toList = call.key.toList))

/-- The name under which a dialect is put and the one under which it is looked up are the same where
there are no blanks around the key. -/
theorem lowerAscii_key_eq_iff {call : DialectCall} {name : String}
    (hname : trim name.toList = name.toList) :
    lowerAscii call.key = name ↔ call.Trimmed ∧ Backend.normalName call.key = name := by
  constructor
  · rintro rfl
    have htrimmed : call.Trimmed := by
      rw [toList_lowerAscii, trim_map_toLower] at hname
      refine (isInfix_trim call.key.toList).eq_of_length ?_
      simpa using congrArg List.length hname
    exact ⟨htrimmed, Backend.normalName_of_trim htrimmed⟩
  · rintro ⟨htrimmed, rfl⟩
    exact (Backend.normalName_of_trim htrimmed).symm

end DialectCall

namespace DialectRegistry

/-- The registry after some registrations, from the built-in dialects on. -/
def after (calls : List DialectCall) : DialectRegistry :=
  calls.foldl (fun r call => r.register call.key call.dialect) builtin

/-- The dialect that was registered last under a name, where keys are compared as they are looked
up. -/
def last? (calls : List DialectCall) (name : String) : Option Dialect :=
  (calls.reverse.find? fun call => Backend.normalName call.key == name).map DialectCall.dialect

/-- What a key is to stand for after some registrations: for the dialect that was registered last
under it, otherwise for that of the product with this name, which may have been registered anew. -/
def meaning (calls : List DialectCall) (key : String) : Except QueryError Dialect :=
  match last? calls (Backend.normalName key) with
  | some d => .ok d
  | none =>
    match Backend.ofName? key with
    | some b => .ok ((last? calls b.key).getD b.dialect)
    | none => .error (.unknownDialect key)

/-! ### The dialects under their names -/

/-- A registration counts if none of those after it has its name. -/
theorem last?_cons (call : DialectCall) (calls : List DialectCall) (name : String) :
    last? (call :: calls) name = (last? calls name).or
      (if Backend.normalName call.key = name then some call.dialect else none) := by
  rw [last?, last?, List.reverse_cons, List.find?_append, Option.map_or, List.find?_singleton]
  by_cases hname : Backend.normalName call.key = name <;> simp [hname]

/-- Where names are looked up, the last call for a name decides, and without one the registry is as
it was. A call whose key has blanks around it puts its dialect elsewhere. -/
theorem get?_foldl_register (r : DialectRegistry) (calls : List DialectCall) {name : String}
    (hname : trim name.toList = name.toList) :
    (calls.foldl (fun r call => r.register call.key call.dialect) r).dialects.get? name
      = (last? (calls.filter (·.Trimmed)) name).or (r.dialects.get? name) := by
  induction calls generalizing r with
  | nil => rfl
  | cons call calls ih =>
    have hput : (r.register call.key call.dialect).dialects.get? name
        = if name = lowerAscii call.key then some call.dialect else r.dialects.get? name :=
      NamedList.get?_put r.dialects (lowerAscii call.key) call.dialect name
    rw [List.foldl_cons, ih, hput]
    by_cases htrimmed : call.Trimmed
    · rw [List.filter_cons_of_pos (by simpa using htrimmed), last?_cons,
        Backend.normalName_of_trim htrimmed, Option.or_assoc]
      by_cases hcall : lowerAscii call.key = name
      · simp [hcall]
      · simp [hcall, Ne.symm hcall]
    · -- A key with blanks around it stays as it is, so no trimmed name finds it.
      have hother : name ≠ lowerAscii call.key := fun heq =>
        htrimmed ((DialectCall.lowerAscii_key_eq_iff hname).mp heq.symm).1
      rw [List.filter_cons_of_neg (by simpa using htrimmed), if_neg hother]

/-- Every built-in product is registered under its own key to begin with. -/
theorem get?_builtin_key (b : Backend) : builtin.dialects.get? b.key = some b.dialect := by
  cases b <;> rfl

/-- The built-in dialects are those of the products, each under its key. -/
theorem exists_of_get?_builtin {name : String} {d : Dialect}
    (h : builtin.dialects.get? name = some d) : ∃ b : Backend, b.key = name ∧ b.dialect = d := by
  have hname : name ∈ builtin.dialects.names :=
    (builtin.dialects.isSome_get?_iff name).mp (by rw [h]; rfl)
  have hnames : builtin.dialects.names = Backend.all.map Backend.key := rfl
  rw [hnames] at hname
  obtain ⟨b, -, rfl⟩ := List.mem_map.mp hname
  exact ⟨b, rfl, Option.some.inj ((get?_builtin_key b).symm.trans h)⟩

/-! ### The dialect of a key -/

/-- The registry answers by the calls whose keys have no blanks around them. -/
theorem lookup_after (calls : List DialectCall) (key : String) :
    (after calls).lookup key = meaning (calls.filter (·.Trimmed)) key := by
  have hname := Backend.trim_normalName key
  rw [lookup, lookup?, meaning, after, get?_foldl_register _ _ hname, Backend.ofName?_normalName]
  cases hlast : last? (calls.filter (·.Trimmed)) (Backend.normalName key) with
  | some d => rfl
  | none =>
    rw [Option.none_or]
    cases hbuiltin : builtin.dialects.get? (Backend.normalName key) with
    | some d =>
      -- The key is that of a product itself, so its other names have no part in it.
      obtain ⟨b, hb, rfl⟩ := exists_of_get?_builtin hbuiltin
      have hproduct : Backend.ofName? key = some b := by
        rw [← Backend.ofName?_normalName, ← hb, Backend.ofName?_key]
      simp [hproduct, hb, hlast]
    | none =>
      cases Backend.ofName? key with
      | none => rfl
      | some b =>
        have hkey : (after calls).dialects.get? b.key
            = some ((last? (calls.filter (·.Trimmed)) b.key).getD b.dialect) := by
          rw [after, get?_foldl_register _ _ b.trim_key, get?_builtin_key]
          cases last? (calls.filter (·.Trimmed)) b.key <;> rfl
        simp only [Option.bind_some]
        rw [← after, hkey]

/-- One more registration is made in the registry that the others left. -/
theorem after_append_singleton (calls : List DialectCall) (call : DialectCall) :
    after (calls ++ [call]) = (after calls).register call.key call.dialect := by
  rw [after, List.foldl_append]
  rfl

/-- A dialect registered under a key without blanks around it is found under this key. -/
theorem lookup_register_of_trimmed (r : DialectRegistry) {call : DialectCall}
    (h : call.Trimmed) : (r.register call.key call.dialect).lookup call.key = .ok call.dialect := by
  have hput := NamedList.get?_put r.dialects (lowerAscii call.key) call.dialect
    (Backend.normalName call.key)
  rw [if_pos (Backend.normalName_of_trim h)] at hput
  rw [lookup, lookup?, register]
  simp only [hput]

/-- A key stands for the dialect that was registered last under it, otherwise for that of the
product with this name, which may have been registered anew, and otherwise for none; of the
registrations those count whose keys have no blanks around them. Each of these is found under its
key at once, and any other one leaves every key with the dialect it had. -/
theorem lookup_of_registrations (calls : List DialectCall) (key : String) :
    (after calls).lookup key = meaning (calls.filter (·.Trimmed)) key ∧
      ∀ call : DialectCall,
        (call.Trimmed → (after (calls ++ [call])).lookup call.key = .ok call.dialect) ∧
          (¬ call.Trimmed → (after (calls ++ [call])).lookup key = (after calls).lookup key) := by
  refine ⟨lookup_after calls key, fun call => ⟨?_, ?_⟩⟩
  · intro htrimmed
    rw [after_append_singleton]
    exact lookup_register_of_trimmed _ htrimmed
  · intro htrimmed
    rw [lookup_after, lookup_after, List.filter_append,
      List.filter_cons_of_neg (by simpa using htrimmed), List.filter_nil, List.append_nil]

/-- A dialect that is not found under the very key under which it has been registered. -/
theorem lookup_of_blankKey :
    (after [⟨" acme ", Backend.postgresDialect⟩]).lookup " acme "
        = .error (.unknownDialect " acme ") ∧
      meaning [⟨" acme ", Backend.postgresDialect⟩] " acme " = .ok Backend.postgresDialect :=
  ⟨rfl, rfl⟩

end DialectRegistry

end SqlSelect
