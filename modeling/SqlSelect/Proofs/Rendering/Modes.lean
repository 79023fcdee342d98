import SqlSelect.Criteria.Step
import SqlSelect.Proofs.Rendering.BoundValues

/-!
# `SqlSelect.Proofs.Rendering.Modes`: literals and placeholders stand in the same places

A `Cut` is a text cut at the places of its values. `Sql.cut` reads one off SQL text with values in
it, and both modes fill it: with the literals of the values, or with placeholders numbered from
left to right. Where the case of a value is ignored, the text around it belongs to the cut, so the
dialect has to ignore case in the common form.

* `Sql.render_eq_fillFrom`: what a mode makes of SQL text is the cut, filled in its way.
* `Criteria.build_modes`: the two modes fail together, or their statements are the same cut, filled
  in these two ways, and the values bound are its values, which are those of the criteria.
-/

set_option autoImplicit false

namespace SqlSelect

/-- A text cut at the places of its values. -/
structure Cut where
  /-- The text in front of the first value. -/
  first : String
  /-- The values, each with the text between it and the next one. -/
  rest : List (SqlValue × String)

namespace Cut

/-- The values from left to right. -/
def values (c : Cut) : List SqlValue :=
  c.rest.map Prod.fst

/-- The text with `f i v` in the place of each value `v`, where `i` counts the places from
`start`. -/
def fillFrom (start : Nat) (f : Nat → SqlValue → String) (c : Cut) : String :=
  c.first ++ String.join ((c.rest.zipIdx start).map fun ((v, behind), i) => f i v ++ behind)

/-- The text with `f i v` in the place of each value `v`, where `i` counts the places from 1. -/
def fill (f : Nat → SqlValue → String) (c : Cut) : String :=
  c.fillFrom 1 f

end Cut

namespace Sql

/-- The text cut at the places of its values. -/
def cut : Sql → Cut
  | [] => ⟨"", []⟩
  | .text s :: rest => ⟨s ++ (cut rest).first, (cut rest).rest⟩
  | .bound v fold :: rest =>
    ⟨foldStart fold, (v, foldEnd fold ++ (cut rest).first) :: (cut rest).rest⟩

/-- The values of a cut are those of the text. -/
theorem values_cut (s : Sql) : (cut s).values = s.params := by
  induction s with
  | nil => rfl
  | cons fragment s ih =>
    cases fragment with
    | text x => exact ih
    | bound v _ => exact congrArg (v :: ·) ih

/-- What a mode puts in the place of a value with the given number. -/
def filling (d : Dialect) : RenderMode → Nat → SqlValue → String
  | .inline => fun _ v => v.literal d
  | .parameterized => fun i _ => d.placeholder i

/-- Text stands in front of the rest in either mode. -/
theorem render_text_cons (d : Dialect) (mode : RenderMode) (used : Nat) (x : String) (s : Sql) :
    render d mode used (.text x :: s) = x ++ render d mode used s := by
  cases mode <;> rfl

/-- A value takes the next number, and the dialect ignores the case of what the mode puts in its
place. -/
theorem render_bound_cons (d : Dialect) (mode : RenderMode) (used : Nat) (v : SqlValue)
    (fold : Bool) (s : Sql) :
    render d mode used (.bound v fold :: s)
      = d.foldedText fold (filling d mode (used + 1) v) ++ render d mode (used + 1) s := by
  cases mode <;> rfl

/-- A mode fills the cut from the number behind the values bound before. -/
theorem render_eq_fillFrom {d : Dialect} (hfold : d.ignoreCase = foldCase) (mode : RenderMode)
    (used : Nat) (s : Sql) :
    s.render d mode used = (cut s).fillFrom (used + 1) (filling d mode) := by
  induction s generalizing used with
  | nil => simp [cut, Cut.fillFrom]
  | cons fragment s ih =>
    cases fragment with
    | text x =>
      rw [render_text_cons, ih]
      simp [cut, Cut.fillFrom, String.append_assoc]
    | bound v fold =>
      rw [render_bound_cons, foldedText_eq hfold, ih]
      simp [cut, Cut.fillFrom, String.append_assoc]

end Sql

namespace Criteria

/-- In the two modes a statement fails with one error, or it is one text cut at its values. The
parameters are these values, and the number of each placeholder is the place of its value. They are
the values of the joins, of WHERE and of HAVING that can be bound, in this order, and no value among
them is NULL, SQL text or a list. The dialect may quote names and escape texts in its own ways, but
ignores case in the common form. -/
theorem build_modes (k : Criteria) {d : Dialect} (hfold : d.ignoreCase = foldCase) (quote : Bool) :
    (∃ e, k.build d .inline quote = .error e ∧ k.build d .parameterized quote = .error e) ∨
      ∃ (c : Cut) (inlined parameterized : Query String),
        k.build d .inline quote = .ok (inlined, []) ∧
        k.build d .parameterized quote = .ok (parameterized, c.values) ∧
        c.values = k.boundValues ∧
        inlined.text = c.fill (fun _ v => v.literal d) ∧
        parameterized.text = c.fill (fun i _ => d.placeholder i) ∧
        ∀ v ∈ c.values, v.isNull = false ∧ v.isVerbatim = false ∧ v.isArray = false := by
  rw [build_eq, build_eq]
  cases hquery : k.query d quote with
  | error e => exact .inl ⟨e, rfl, rfl⟩
  | ok q =>
    right
    have hvalues : (Sql.cut q.sql).values = q.params := by
      rw [Sql.values_cut]
      exact Query.boundIn_sql .parameterized q
    have hbound : (Sql.cut q.sql).values = k.boundValues := hvalues.trans (params_query hquery)
    refine ⟨Sql.cut q.sql, q.render d .inline, q.render d .parameterized, ?_, ?_, hbound,
      ?_, ?_, ?_⟩
    · -- No clause binds anything where values are literals.
      have hnone : q.boundIn .inline = [] := (Query.boundIn_sql .inline q).symm
      simp only [Except.map, hnone]
    · rw [hvalues]
      rfl
    · rw [Query.text_render]
      exact Sql.render_eq_fillFrom hfold .inline 0 q.sql
    · rw [Query.text_render]
      exact Sql.render_eq_fillFrom hfold .parameterized 0 q.sql
    · intro v hv
      rw [hbound] at hv
      have hbindable := isBindable_of_mem_boundValues hv
      cases v with
      | null | array _ | verbatim _ => simp [SqlValue.isBindable] at hbindable
      | _ => exact ⟨rfl, rfl, rfl⟩

/-- Steps with values in a join, in a list beside NULL, in a pattern and in HAVING, for the first
two rows. -/
def boundSteps : List Step :=
  [.joinTable "b" .left (.group .and [.comparison ⟨"a.id", .relation .eq (.column "b.a_id"), false⟩,
      .comparison ⟨"b.kind", .relation .eq (.value (.string "x")), true⟩]),
    .andWhere (.comparison ⟨"a.n", .membership false [.int 1, .null, .int 2], false⟩),
    .andWhere (.comparison ⟨"a.name", .relation .like (.value (.string "j*")), true⟩),
    .andHaving (.comparison ⟨"MAX(a.n)", .relation .gt (.value (.int 7)), false⟩),
    .setLimit 2]

/-- The statement after these steps, with placeholders. -/
def boundText : String :=
  "SELECT B.* FROM (SELECT A.*, rownum AS RN$ FROM (SELECT * FROM a LEFT JOIN b ON a.id=b.a_id" ++
    " AND UPPER(b.kind)=UPPER(:1) WHERE (a.n IN (:2,:3) OR a.n IS NULL) AND" ++
    " UPPER(a.name) LIKE UPPER(:4) HAVING MAX(a.n)>:5) A) B WHERE B.RN$ <= 2"

/-- Five values in three clauses, behind a statement that limits rows by their numbers. -/
theorem build_modes_boundSteps :
    ∃ (k : Criteria) (c : Cut), ofSteps boundSteps = .ok k ∧
      Backend.oracle.dialect.ignoreCase = foldCase ∧
      (k.inlineWith Backend.oracle.dialect false)
        = .ok (c.fill fun _ v => v.literal Backend.oracle.dialect) ∧
      (k.parameterizedWith Backend.oracle.dialect false) = .ok (boundText, c.values) ∧
      boundText = c.fill (fun i _ => Backend.oracle.dialect.placeholder i) ∧
      c.values = k.boundValues ∧
      k.boundValues.map (SqlValue.literal Backend.oracle.dialect)
        = ["'x'", "1", "2", "'j%'", "7"] := by
  have hrun : ((ofSteps boundSteps).bind fun k =>
      (k.parameterizedWith Backend.oracle.dialect false).map fun written =>
        (written.1, k.boundValues.map (SqlValue.literal Backend.oracle.dialect)))
        = .ok (boundText, ["'x'", "1", "2", "'j%'", "7"]) := by
    decide +kernel
  obtain ⟨k, hsteps, hrun⟩ := except_bind_eq_ok_iff.mp hrun
  obtain ⟨⟨text, values⟩, hwritten, hk⟩ := except_map_eq_ok_iff.mp hrun
  obtain ⟨hbound, hliterals⟩ := Prod.mk.inj hk
  have hfold : Backend.oracle.dialect.ignoreCase = foldCase := rfl
  rcases build_modes k hfold false with
    ⟨e, -, herror⟩ | ⟨c, q, q', hinline, hparameterized, hvalues, htext, htext', -⟩
  · -- The run has a result, so the first case is ruled out.
    rw [parameterizedWith, herror] at hwritten
    cases hwritten
  · have hwhole : k.parameterizedWith Backend.oracle.dialect false = .ok (q'.text, c.values) := by
      rw [parameterizedWith, hparameterized]
      rfl
    have hsame : q'.text = boundText := by
      rw [hwhole] at hwritten
      rw [← hbound, ← congrArg Prod.fst (Except.ok.inj hwritten)]
    refine ⟨k, c, hsteps, hfold, ?_, ?_, ?_, hvalues, hliterals⟩
    · rw [inlineWith, hinline, ← htext]
      rfl
    · rw [hwhole, hsame]
    · rw [← hsame, htext']

end Criteria

end SqlSelect
