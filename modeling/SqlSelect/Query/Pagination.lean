import SqlSelect.Error
import SqlSelect.Query.Basic
import SqlSelect.Query.SelectAlias

/-!
# `SqlSelect.Query.Pagination`: limiting the rows of a query

`Query.paginate` puts a limit and an offset into a query by the means of a dialect. An offset of
zero or less is none. Where rows are limited by their numbers, the query becomes the innermost of
three: the middle one numbers its rows, and the outer one keeps those between the bounds.

`Query.paginateInPlace` changes the query that it is given instead of returning another one, so it
also says what a failure leaves behind.

* `Query.limited_eq_ok_cases`, `Query.paginate_eq_ok_cases`: the query with a limit and an offset.
* `Query.run_paginateInPlace`: it has the result of `Query.paginate`, and a failure changes nothing.
-/

set_option autoImplicit false

namespace SqlSelect

/-- Why a dialect cannot express a limit or an offset. -/
inductive PaginationFault where
  | offsetNeedsLimit
  | onlyLimit
  | noMeans
  deriving DecidableEq, Repr

/-- The fault in words. -/
def PaginationFault.message : PaginationFault → String
  | offsetNeedsLimit => "an offset requires a limit"
  | onlyLimit => "only a row limit without offset can be expressed"
  | noMeans => "no limit or offset syntax"

namespace Query

/-- The name of the column with the numbers of the rows. -/
def rowNumberAlias : String := "RN$"

/-- The sum of two numbers of rows, kept between the bounds of 64-bit integers. -/
def addRows (a b : Int) : Int :=
  max Number.int64Bounds.1 (min Number.int64Bounds.2 (a + b))

/-- The condition on the numbers of the rows. -/
def rowBound (limit offset : Option Int) : String :=
  let column := "B." ++ rowNumberAlias
  let upTo (last : Int) := column ++ " <= " ++ toString last
  let beyond (skipped : Int) := column ++ " > " ++ toString skipped
  match limit, offset with
  | some limit, some offset => beyond offset ++ " AND " ++ upTo (addRows offset limit)
  | some limit, none => upTo limit
  | none, some offset => beyond offset
  | none, none => ""

/-- The query as a subquery whose rows are numbered and bounded. -/
def byRowNumber {σ : Type} (q : Query σ) (limit offset : Option Int) : Query σ :=
  { q with
    columns := aliasDuplicates q.columns
    beforeText := some
      ("SELECT B.* FROM (SELECT A.*, rownum AS " ++ rowNumberAlias ++ " FROM (")
    afterText := some (") A) B WHERE " ++ rowBound limit offset) }

/-- The offset that counts: a positive one. -/
def effectiveOffset (offset : Option Int) : Option Int :=
  offset.filter fun n => 0 < n

/-- The query limited by the means of a dialect. -/
def limited {σ : Type} (q : Query σ) (limit offset : Option Int) :
    Pagination → Except PaginationFault (Query σ)
  | .native template =>
    match template.render limit offset with
    | some text => .ok { q with limitText := some text }
    | none => .error .offsetNeedsLimit
  | .top =>
    match limit, offset with
    | some limit, none => .ok { q with modifiers := q.modifiers ++ ["TOP " ++ toString limit] }
    | _, _ => .error .onlyLimit
  | .rowNumber => .ok (q.byRowNumber limit offset)
  | .unsupported => .error .noMeans

/-- The query with a limit and an offset in a dialect. -/
def paginate {σ : Type} (q : Query σ) (d : Dialect) (limit offset : Option Int) :
    Except QueryError (Query σ) :=
  let offset := effectiveOffset offset
  if limit.isNone && offset.isNone then .ok q
  else
    match q.limited limit offset d.pagination with
    | .ok q => .ok q
    | .error fault => .error (.unsupportedPagination d.name fault.message)

/-! ### What comes of it -/

section Cases

variable {σ : Type} {q r : Query σ} {d : Dialect} {means : Pagination} {limit offset : Option Int}

/-- The bounds stand in a clause of their own or as a modifier, or the query becomes a subquery. -/
theorem limited_eq_ok_cases (h : q.limited limit offset means = .ok r) :
    (∃ template text, means = .native template ∧ template.render limit offset = some text ∧
        r = { q with limitText := some text }) ∨
      (∃ n, means = .top ∧ limit = some n ∧ offset = none ∧
        r = { q with modifiers := q.modifiers ++ ["TOP " ++ toString n] }) ∨
      (means = .rowNumber ∧ r = q.byRowNumber limit offset) := by
  cases means with
  | native template =>
    unfold limited at h
    dsimp only at h
    split at h
    · rename_i text htext
      exact .inl ⟨template, text, rfl, htext, (Except.ok.inj h).symm⟩
    · cases h
  | top =>
    match limit, offset with
    | some n, none => exact .inr (.inl ⟨n, rfl, rfl, rfl, (Except.ok.inj h).symm⟩)
    | some _, some _ => cases h
    | none, _ => cases h
  | rowNumber => exact .inr (.inr ⟨rfl, (Except.ok.inj h).symm⟩)
  | unsupported => cases h

/-- Without a limit and an offset that counts, a query stays as it is. -/
theorem paginate_of_unbounded (hlimit : limit = none) (hoffset : effectiveOffset offset = none) :
    q.paginate d limit offset = .ok q := by
  rw [paginate, hlimit, hoffset]
  rfl

/-- With a limit or an offset that counts, it is for the means of the dialect whether there is a
query. -/
theorem paginate_of_bounded (h : limit.isSome ∨ (effectiveOffset offset).isSome) :
    q.paginate d limit offset
      = match q.limited limit (effectiveOffset offset) d.pagination with
        | .ok r => .ok r
        | .error fault => .error (.unsupportedPagination d.name fault.message) := by
  have hcheck : (limit.isNone && (effectiveOffset offset).isNone) = false := by
    rw [Bool.and_eq_false_iff, Option.isNone_eq_false_iff, Option.isNone_eq_false_iff]
    exact h
  rw [paginate, hcheck, if_neg Bool.false_ne_true]

/-- There is something to limit, or there is not. -/
theorem bounded_or_unbounded (limit offset : Option Int) :
    (limit.isSome ∨ (effectiveOffset offset).isSome) ∨
      limit = none ∧ effectiveOffset offset = none := by
  cases limit with
  | some n => exact .inl (.inl rfl)
  | none =>
    cases effectiveOffset offset with
    | some m => exact .inl (.inr rfl)
    | none => exact .inr ⟨rfl, rfl⟩

/-- What a query with bounds can be: the query as it was, or what the means of the dialect make of
it. -/
theorem paginate_eq_ok_cases (h : q.paginate d limit offset = .ok r) :
    (limit = none ∧ effectiveOffset offset = none ∧ r = q) ∨
      (limit.isSome ∨ (effectiveOffset offset).isSome) ∧
        q.limited limit (effectiveOffset offset) d.pagination = .ok r := by
  rcases bounded_or_unbounded limit offset with hbounded | ⟨hlimit, hoffset⟩
  · refine .inr ⟨hbounded, ?_⟩
    rw [paginate_of_bounded hbounded] at h
    split at h
    · rename_i hlimited
      rwa [← Except.ok.inj h]
    · cases h
  · rw [paginate_of_unbounded hlimit hoffset] at h
    exact .inl ⟨hlimit, hoffset, (Except.ok.inj h).symm⟩

end Cases

/-! ### In place -/

/-- A change of a query that may fail; what was changed before the failure stays changed. -/
abbrev Change (σ : Type) := ExceptT QueryError (StateM (Query σ))

/-- Gives up a change for a fault of the dialect. -/
def failWith {σ α : Type} (d : Dialect) (fault : PaginationFault) : Change σ α :=
  throw (.unsupportedPagination d.name fault.message)

/-- Makes the query a subquery whose rows are numbered and bounded. -/
def numberRows {σ : Type} (limit offset : Option Int) : Change σ Unit := do
  modify fun q => { q with columns := aliasDuplicates q.columns }
  modify fun q => { q with
    beforeText := some ("SELECT B.* FROM (SELECT A.*, rownum AS " ++ rowNumberAlias ++ " FROM (") }
  modify fun q => { q with afterText := some (") A) B WHERE " ++ rowBound limit offset) }

/-- Limits the query by a limit and an offset in a dialect. -/
def paginateInPlace {σ : Type} (d : Dialect) (limit offset : Option Int) : Change σ Unit := do
  let offset := effectiveOffset offset
  if limit.isNone && offset.isNone then return
  match d.pagination with
  | .native template =>
    match template.render limit offset with
    | some text => modify fun q => { q with limitText := some text }
    | none => failWith d .offsetNeedsLimit
  | .top =>
    match limit, offset with
    | some limit, none =>
      modify fun q => { q with modifiers := q.modifiers ++ ["TOP " ++ toString limit] }
    | _, _ => failWith d .onlyLimit
  | .rowNumber => numberRows limit offset
  | .unsupported => failWith d .noMeans

/-- Every check comes before the first change. -/
theorem run_paginateInPlace {σ : Type} (q : Query σ) (d : Dialect) (limit offset : Option Int) :
    Id.run ((paginateInPlace d limit offset).run.run q)
      = match q.paginate d limit offset with
        | .ok r => (.ok (), r)
        | .error e => (.error e, q) := by
  unfold paginateInPlace paginate limited
  dsimp only
  split
  · rfl
  · cases d.pagination with
    | native template =>
      dsimp only
      cases template.render limit (effectiveOffset offset) <;> rfl
    | top => cases limit <;> cases effectiveOffset offset <;> rfl
    | rowNumber => rfl
    | unsupported => rfl

/-! ### Warnings -/

/-- What a caller is warned of: among the columns of a subquery there is a function call whose
name is unknown. -/
def unnamedFunctionWarning : String :=
  "Unaliased function columns are not checked for duplicate names"

/-- The warnings that go with `paginate`. -/
def paginationWarnings {σ : Type} (q : Query σ) (d : Dialect) (limit offset : Option Int) :
    List String :=
  let unnamed := q.columns.any fun entry =>
    Column.isFunction entry && (Column.functionAlias entry).isNone
  if (limit.isSome || (effectiveOffset offset).isSome) && d.pagination == .rowNumber && unnamed then
    [unnamedFunctionWarning]
  else []

end Query

end SqlSelect
