import SqlSelect.Criterion.Writer

/-!
# `SqlSelect.Proofs.Rendering.Fragments`: SQL text with values, in either mode

`Sql.render` and `Sql.boundIn` name the two things a mode makes of SQL text with values in it: the
text, with placeholders numbered from behind the values bound before, and the values it binds.

* `Sql.render_append`, `Sql.boundIn_append`: the number of a placeholder depends only on how many
  values stand in front of it.
* `Sql.render_ofValue`: the case of a value is ignored in the text that the mode has for it.
* `Sql.foldedText_eq`: in the common form, that text stands between two others.
* `Sql.render_joinWith`, `Sql.boundIn_joinWith`: the same for a list with a text between its
  items.
-/

set_option autoImplicit false

namespace SqlSelect.Sql

/-- The text in a mode, when `used` values are bound before it. -/
def render (d : Dialect) (mode : RenderMode) (used : Nat) (s : Sql) : String :=
  match mode with
  | .inline => s.inline d
  | .parameterized => s.withPlaceholders d used

/-- The values that are bound in a mode. -/
def boundIn (mode : RenderMode) (s : Sql) : List SqlValue :=
  match mode with
  | .inline => []
  | .parameterized => s.params

/-- The texts of the items of a list, one behind the other. -/
def renderAll (d : Dialect) (mode : RenderMode) (used : Nat) : List Sql → List String
  | [] => []
  | s :: rest => s.render d mode used :: renderAll d mode (used + (s.boundIn mode).length) rest

/-! ### Text behind text -/

@[simp] theorem render_nil (d : Dialect) (mode : RenderMode) (used : Nat) :
    render d mode used [] = "" := by
  cases mode <;> rfl

@[simp] theorem boundIn_nil (mode : RenderMode) : boundIn mode [] = [] := by
  cases mode <;> rfl

/-- Literals stand in their places whatever is in front of them. -/
theorem inline_append (d : Dialect) (s t : Sql) : (s ++ t).inline d = s.inline d ++ t.inline d := by
  induction s with
  | nil => simp [inline]
  | cons fragment s ih => cases fragment <;> simp [inline, ih, String.append_assoc]

/-- The values of two texts stand one behind the other. -/
theorem params_append (s t : Sql) : (s ++ t).params = s.params ++ t.params := by
  induction s with
  | nil => rfl
  | cons fragment s ih => cases fragment <;> simp [params, ih]

/-- The placeholders of the second text are numbered on from the values of the first one. -/
theorem withPlaceholders_append (d : Dialect) (used : Nat) (s t : Sql) :
    (s ++ t).withPlaceholders d used
      = s.withPlaceholders d used ++ t.withPlaceholders d (used + s.params.length) := by
  induction s generalizing used with
  | nil => simp [withPlaceholders, params]
  | cons fragment s ih =>
    cases fragment with
    | text x => simp [withPlaceholders, params, ih, String.append_assoc]
    | bound v fold =>
      -- The value itself takes the first number behind `used`.
      have hcount : used + 1 + (params s).length = used + ((params s).length + 1) := by omega
      simp [withPlaceholders, params, ih, hcount, String.append_assoc]

/-- The values of the first part move the numbers of the second part on. -/
theorem render_append (d : Dialect) (mode : RenderMode) (used : Nat) (s t : Sql) :
    (s ++ t).render d mode used
      = s.render d mode used ++ t.render d mode (used + (s.boundIn mode).length) := by
  cases mode with
  | inline => exact inline_append d s t
  | parameterized => exact withPlaceholders_append d used s t

/-- What two texts bind stands one behind the other in either mode. -/
@[simp] theorem boundIn_append (mode : RenderMode) (s t : Sql) :
    (s ++ t).boundIn mode = s.boundIn mode ++ t.boundIn mode := by
  cases mode with
  | inline => rfl
  | parameterized => exact params_append s t

/-- Text is written as it is in either mode. -/
@[simp] theorem render_ofText (d : Dialect) (mode : RenderMode) (used : Nat) (x : String) :
    (ofText x).render d mode used = x := by
  cases mode <;> simp [render, ofText, inline, withPlaceholders]

/-- Text binds nothing. -/
@[simp] theorem boundIn_ofText (mode : RenderMode) (x : String) : (ofText x).boundIn mode = [] := by
  cases mode <;> rfl

/-! ### Text around text -/

/-- The text in front of a value whose letter case is ignored in the common form, or is not. -/
def foldStart (fold : Bool) : String :=
  if fold then "UPPER(" else ""

/-- The text behind such a value. -/
def foldEnd (fold : Bool) : String :=
  if fold then ")" else ""

/-- In the common form, case is ignored by text around the expression. -/
theorem foldedText_eq {d : Dialect} (hfold : d.ignoreCase = foldCase) (fold : Bool)
    (expression : String) :
    d.foldedText fold expression = foldStart fold ++ expression ++ foldEnd fold := by
  cases fold with
  | false => simp [Dialect.foldedText, foldStart, foldEnd]
  | true =>
    rw [Dialect.foldedText, if_pos rfl, hfold]
    rfl

/-- The dialect gets the text that the mode has for a value, whichever that is. -/
theorem render_ofValue (d : Dialect) (mode : RenderMode) (used : Nat) (fold : Bool)
    (v : SqlValue) :
    (ofValue d fold v).render d mode used
      = d.foldedText fold ((ofValue d false v).render d mode used) := by
  cases hv : v.isBindable <;> cases mode <;>
    simp [ofValue, hv, render, inline, withPlaceholders, Dialect.foldedText]

/-- Ignoring case binds nothing. -/
theorem boundIn_ofValue (d : Dialect) (mode : RenderMode) (fold : Bool) (v : SqlValue) :
    (ofValue d fold v).boundIn mode = (ofValue d false v).boundIn mode := by
  cases hv : v.isBindable <;> cases mode <;> simp [ofValue, hv, boundIn, params]

/-- Parentheses around text do not touch the numbers in it. -/
@[simp] theorem render_parenthesized (d : Dialect) (mode : RenderMode) (used : Nat) (s : Sql) :
    s.parenthesized.render d mode used = "(" ++ s.render d mode used ++ ")" := by
  simp [parenthesized, render_append, String.append_assoc]

/-- Parentheses bind nothing. -/
@[simp] theorem boundIn_parenthesized (mode : RenderMode) (s : Sql) :
    s.parenthesized.boundIn mode = s.boundIn mode := by
  simp [parenthesized]

/-! ### Lists -/

/-- The separator binds nothing, so the numbers go on behind the first item. -/
theorem render_joinWith_cons_cons (d : Dialect) (mode : RenderMode) (used : Nat)
    (separator : String) (s t : Sql) (rest : List Sql) :
    (joinWith separator (s :: t :: rest)).render d mode used
      = s.render d mode used ++ separator ++
        (joinWith separator (t :: rest)).render d mode (used + (s.boundIn mode).length) := by
  simp [joinWith, render_append, String.append_assoc]

/-- A list is written item by item, with the numbers going on from one to the next. -/
theorem render_joinWith (d : Dialect) (mode : RenderMode) (used : Nat) (separator : String)
    (items : List Sql) :
    (joinWith separator items).render d mode used
      = String.intercalate separator (renderAll d mode used items) := by
  induction items generalizing used with
  | nil => simp [joinWith, renderAll]
  | cons s rest ih =>
    cases rest with
    | nil => simp [joinWith, renderAll]
    | cons t rest =>
      rw [render_joinWith_cons_cons, ih]
      simp [renderAll, String.append_assoc]

/-- What stands between the items of a list binds nothing. -/
theorem boundIn_joinWith (mode : RenderMode) (separator : String) (items : List Sql) :
    (joinWith separator items).boundIn mode = items.flatMap (boundIn mode) := by
  induction items with
  | nil => exact boundIn_nil mode
  | cons s rest ih =>
    cases rest with
    | nil => simp [joinWith]
    | cons t rest => simp [joinWith, ih]

end SqlSelect.Sql
