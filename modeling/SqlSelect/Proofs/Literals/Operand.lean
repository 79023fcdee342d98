import SqlSelect.Proofs.Literals.Values
import SqlSelect.Proofs.Rendering.Writer

/-!
# `SqlSelect.Proofs.Literals.Operand`: literals with code between them

Where values are written as literals, SQL text is code with literals in it. As long as no quote
stands next to a literal, a product reads each of them by itself: a quote that opens one is closed
by its own last quote.

* `Sql.tokens`: what SQL text with values in it is read as.
* `Sql.Separated.readsAs_iff`: it is read so exactly if its UUIDs are plain, if no quote stands next
  to a value.
* `Sql.IsOperandOf`: the values of a comparison with the code that stands around them there, from
  one value (`ofValue`) to a list (`items`).
-/

set_option autoImplicit false

namespace SqlSelect

open Text

/-! ### SQL text with values in it -/

namespace Sql

variable {b : Backend} {s t : Sql}

/-- Text is written as it is. -/
theorem inline_ofText (d : Dialect) (x : String) : (ofText x).inline d = x :=
  render_ofText d .inline 0 x

/-- Parentheses stand around what is written between them. -/
theorem inline_parenthesized (d : Dialect) (s : Sql) :
    s.parenthesized.inline d = "(" ++ s.inline d ++ ")" :=
  render_parenthesized d .inline 0 s

/-- A value whose case is ignored or not, as its product writes it. -/
theorem inline_bound_cons (b : Backend) (v : SqlValue) (fold : Bool) (rest : Sql) :
    inline b.dialect (.bound v fold :: rest)
      = foldStart fold ++ (v.literal b.dialect ++ (foldEnd fold ++ inline b.dialect rest)) := by
  rw [inline, foldedText_eq b.ignoreCase_dialect]
  simp only [String.append_assoc]

/-- The pieces of SQL text with the literals of its values in their places. -/
def tokens (b : Backend) : Sql → List Token
  | [] => []
  | .text x :: rest => Token.ofCode x ++ tokens b rest
  | .bound v fold :: rest =>
    Token.ofCode (foldStart fold) ++
      (v.tokens b ++ (Token.ofCode (foldEnd fold) ++ tokens b rest))

/-- Whether what follows a text leaves its last quote alone. -/
def StartsPlain (b : Backend) (text : String) : Prop :=
  ∀ c ∈ text.toList.head?, ¬ b.literalRules.IsSpecial c

/-- Whether there is no quote around the values. -/
def Separated (b : Backend) : Sql → Prop
  | [] => True
  | .text x :: rest => '\'' ∉ x.toList ∧ Separated b rest
  | .bound v fold :: rest =>
    v.isBindable = true ∧ StartsPlain b (foldEnd fold ++ inline b.dialect rest) ∧ Separated b rest

/-- What starts plainly does not go on with the quote that was just closed. -/
theorem StartsPlain.head?_ne {text : String} (h : StartsPlain b text) :
    text.toList.head? ≠ some b.literalRules.close :=
  fun hclose => h _ hclose b.literalRules.isSpecial_close

/-- The start of two texts is that of the first one, or of the second one where the first is empty.
-/
theorem StartsPlain.append {x y : String} (hx : StartsPlain b x) (hy : StartsPlain b y) :
    StartsPlain b (x ++ y) := by
  unfold StartsPlain at hx hy ⊢
  rw [String.toList_append]
  cases hcs : x.toList with
  | nil => exact hy
  | cons c cs =>
    rw [hcs] at hx
    exact hx

/-- Two parts stay separated if the second one starts plainly, as the first one may end in a
literal. -/
theorem Separated.append (hs : Separated b s) (ht : Separated b t)
    (hstart : StartsPlain b (t.inline b.dialect)) : Separated b (s ++ t) := by
  induction s with
  | nil => exact ht
  | cons fragment s ih =>
    cases fragment with
    | text x => exact ⟨hs.1, ih hs.2⟩
    | bound v fold =>
      refine ⟨hs.1, ?_, ih hs.2.2⟩
      show StartsPlain b (foldEnd fold ++ inline b.dialect (s ++ t))
      rw [inline_append, ← String.append_assoc]
      exact hs.2.1.append hstart

/-- There is no quote in the text around a value whose case is ignored. -/
theorem notMem_foldMarks (fold : Bool) :
    '\'' ∉ (foldStart fold).toList ∧ '\'' ∉ (foldEnd fold).toList := by
  cases fold <;> decide

/-- The text is read as its pieces if no UUID in it needs an escape. The induction is on the text:
each part of it is read as its own pieces, since no quote stands between two parts. -/
theorem Separated.readsAs (h : Separated b s)
    (huuid : ∀ u, SqlValue.uuid u ∈ s.params → b.literalRules.IsPlain u.toList) :
    b.ReadsAs (s.inline b.dialect) (s.tokens b) := by
  induction s with
  | nil => exact Quoting.ReadsAs.nil
  | cons fragment s ih =>
    unfold Backend.ReadsAs at ih ⊢
    cases fragment with
    | text x =>
      obtain ⟨hquote, hrest⟩ := h
      rw [inline, tokens, String.toList_append]
      exact (ih hrest huuid).code_append (b.ne_close_of_notMem hquote)
    | bound v fold =>
      obtain ⟨hv, hstart, hrest⟩ := h
      obtain ⟨hfirst, hlast⟩ := notMem_foldMarks fold
      have hliteral := SqlValue.readsAs_literal (b := b) hv fun u hu =>
        huuid u (hu ▸ List.mem_cons_self)
      -- Behind the value there may be a mark of folding, which is code like the text behind it.
      have hbehind := (ih hrest fun u hu => huuid u (List.mem_cons_of_mem _ hu)).code_append
        (b.ne_close_of_notMem hlast)
      have hhead := hstart.head?_ne
      rw [String.toList_append] at hhead
      rw [inline_bound_cons, tokens, String.toList_append, String.toList_append,
        String.toList_append]
      exact (Quoting.ReadsAs.append hliteral hbehind hhead).code_append
        (b.ne_close_of_notMem hfirst)

/-- What has been read as it should be, and the rest as well, can be taken off. -/
theorem eq_some_of_map {rest? : Option (List Token)} {ts us : List Token}
    (h : rest?.map (ts ++ ·) = some (ts ++ us)) : rest? = some us := by
  obtain ⟨us', hrest, hus⟩ := Option.map_eq_some_iff.mp h
  rw [hrest, List.append_cancel_left hus]

/-- Text that is read as its pieces has only plain UUIDs in it. The induction takes one part after
the other off, which a plain UUID allows as well. -/
theorem Separated.isPlain_of_tokens? (h : Separated b s)
    (hread : b.literalRules.tokens? (s.inline b.dialect).toList = some (s.tokens b)) {u : String}
    (hu : SqlValue.uuid u ∈ s.params) : b.literalRules.IsPlain u.toList := by
  induction s with
  | nil => cases hu
  | cons fragment s ih =>
    cases fragment with
    | text x =>
      obtain ⟨hquote, hrest⟩ := h
      rw [inline, tokens, String.toList_append,
        Quoting.tokens?_code_append (b.ne_close_of_notMem hquote)] at hread
      exact ih hrest (eq_some_of_map hread) hu
    | bound v fold =>
      obtain ⟨hv, hstart, hrest⟩ := h
      obtain ⟨hfirst, hlast⟩ := notMem_foldMarks fold
      have hhead := hstart.head?_ne
      rw [String.toList_append] at hhead
      rw [inline_bound_cons, tokens, String.toList_append,
        Quoting.tokens?_code_append (b.ne_close_of_notMem hfirst)] at hread
      have hread := eq_some_of_map hread
      rw [String.toList_append, String.toList_append] at hread
      have hplain : ∀ u', v = .uuid u' → b.literalRules.IsPlain u'.toList := by
        -- A UUID stands between quotes as it is, and has been read as itself.
        rintro u' rfl
        have hquotes : (SqlValue.uuid u').literal b.dialect = singleQuoted u' := by
          rw [SqlValue.literal]
        rw [hquotes, toList_singleQuoted, ← b.close_literalRules, List.append_assoc] at hread
        exact Quoting.isPlain_of_tokens? hread fun c hc => hstart c (by rwa [String.toList_append])
      rw [SqlValue.readsAs_literal hv hplain _ hhead] at hread
      rcases List.mem_cons.mp hu with hthis | hlater
      · exact hplain u hthis.symm
      · have hread := eq_some_of_map hread
        rw [Quoting.tokens?_code_append (b.ne_close_of_notMem hlast)] at hread
        exact ih hrest (eq_some_of_map hread) hlater

/-- Text is read as its pieces exactly if its UUIDs are plain. -/
theorem Separated.readsAs_iff (h : Separated b s) :
    b.ReadsAs (s.inline b.dialect) (s.tokens b)
      ↔ ∀ u, SqlValue.uuid u ∈ s.params → b.literalRules.IsPlain u.toList :=
  ⟨fun hread _ hu => h.isPlain_of_tokens? hread.tokens?_eq hu, h.readsAs⟩

/-! ### Operands -/

/-- The code that may stand around the values of an operand, beside that which ignores their
case. -/
def operandCode : List String :=
  ["(", ")", ","]

/-- Whether SQL text shows some values, separated from each other, with the code of an operand
around them. -/
structure IsOperandOf (b : Backend) (s : Sql) (values : List SqlValue) : Prop where
  separated : s.Separated b
  params : s.params = values
  code : ∀ x, Fragment.text x ∈ s → x ∈ operandCode

/-- The code of an operand starts plainly. Nothing that follows matters, as the code is never empty.
-/
theorem startsPlain_code_append {x : String} (hx : x ∈ operandCode) (text : String) :
    StartsPlain b (x ++ text) := by
  have hall : ∀ y ∈ operandCode, y.toList ≠ []
      ∧ y.toList.head? ≠ some '\'' ∧ y.toList.head? ≠ some '\\' := by decide
  obtain ⟨hne, hquote, hescape⟩ := hall x hx
  intro c hc hspecial
  rw [String.toList_append] at hc
  cases hcs : x.toList with
  | nil => exact hne hcs
  | cons d cs =>
    -- The text starts with the first character of the code.
    rw [hcs] at hc hquote hescape
    rcases Backend.eq_of_isSpecial hspecial with rfl | rfl
    · exact hquote hc
    · exact hescape hc

/-- The code of an operand has no quote in it. -/
theorem notMem_of_mem_operandCode {x : String} (hx : x ∈ operandCode) : '\'' ∉ x.toList := by
  have hall : ∀ y ∈ operandCode, '\'' ∉ y.toList := by decide
  exact hall x hx

namespace IsOperandOf

variable {x : String} {vs us : List SqlValue}

/-- A value that can be bound, alone. -/
theorem ofValue {v : SqlValue} (hv : v.isBindable = true) (fold : Bool) :
    IsOperandOf b (Sql.ofValue b.dialect fold v) [v] := by
  have hsql : Sql.ofValue b.dialect fold v = [.bound v fold] := by rw [Sql.ofValue, if_pos hv]
  have hend : StartsPlain b (foldEnd fold ++ inline b.dialect []) := by
    cases fold with
    | false =>
      intro c hc
      cases hc
    | true => exact startsPlain_code_append (by decide) _
  rw [hsql]
  exact ⟨⟨hv, hend, trivial⟩, rfl, by simp⟩

/-- Code in front of an operand. -/
theorem code_append (hx : x ∈ operandCode) (h : IsOperandOf b s vs) :
    IsOperandOf b (ofText x ++ s) vs where
  separated := ⟨notMem_of_mem_operandCode hx, h.separated⟩
  params := h.params
  code y hy := by
    rcases List.mem_cons.mp hy with hfirst | hlater
    · cases hfirst
      exact hx
    · exact h.code y hlater

/-- An operand behind an operand, with the values of both. -/
theorem append (h : IsOperandOf b s vs) (h' : IsOperandOf b t us)
    (hstart : StartsPlain b (t.inline b.dialect)) : IsOperandOf b (s ++ t) (vs ++ us) where
  separated := h.separated.append h'.separated hstart
  params := by rw [params_append, h.params, h'.params]
  code y hy := (List.mem_append.mp hy).elim (h.code y) (h'.code y)

/-- An operand without values is empty. -/
theorem nil : IsOperandOf b [] [] :=
  ⟨trivial, rfl, fun _ hx => absurd hx List.not_mem_nil⟩

/-- Code between two operands. -/
theorem append_code_append (h : IsOperandOf b s vs) (hx : x ∈ operandCode)
    (h' : IsOperandOf b t us) : IsOperandOf b (s ++ ofText x ++ t) (vs ++ us) := by
  have hstart : StartsPlain b ((ofText x ++ t).inline b.dialect) :=
    startsPlain_code_append hx (t.inline b.dialect)
  rw [List.append_assoc]
  exact h.append (h'.code_append hx) hstart

/-- Code behind an operand. -/
theorem append_code (h : IsOperandOf b s vs) (hx : x ∈ operandCode) :
    IsOperandOf b (s ++ ofText x) vs := by
  have hbetween := h.append_code_append hx nil
  rwa [List.append_nil, List.append_nil] at hbetween

/-- Parentheses around an operand. -/
theorem parenthesized (h : IsOperandOf b s vs) : IsOperandOf b s.parenthesized vs :=
  (h.code_append (by decide)).append_code (by decide)

/-- The values of a list, with a comma behind each but the last one. -/
theorem items {values : List SqlValue} (hvalues : ∀ v ∈ values, v.isBindable = true)
    (fold : SqlValue → Bool) :
    IsOperandOf b (joinWith "," (values.map fun v => Sql.ofValue b.dialect (fold v) v))
      values := by
  induction values with
  | nil => exact nil
  | cons v values ih =>
    have hfirst := ofValue (b := b) (hvalues v List.mem_cons_self) (fold v)
    have hrest := ih fun u hu => hvalues u (List.mem_cons_of_mem _ hu)
    cases values with
    | nil => exact hfirst
    | cons u values => exact hfirst.append_code_append (by decide) hrest

end IsOperandOf

end Sql

end SqlSelect
