import Mathlib.Data.List.Infix
import SqlSelect.Dialect.Limit
import SqlSelect.Proofs.Digits

/-!
# `SqlSelect.Proofs.Paging.Templates`: filling the markers of a template

`LimitTemplate.fill` looks for one marker after the other, and what it has put in the place of the
first is part of the text that it searches for the second. A template has any text around its
markers, also braces and parts of markers, so a number could in principle complete a marker or break
one. It does neither: a marker begins with its only opening brace, so two occurrences never overlap,
and no character of a number is in a marker.

* `TemplatePart.exists_parted`: every template consists of markers and of text that none starts in.
* `TemplatePart.Parted.map_put`: numbers in the places of markers make no other marker.
* `TemplatePart.fill_chars`: a template is filled part by part.
* `LimitTemplate.render_simultaneous`: the markers are replaced at once.
-/

set_option autoImplicit false

namespace SqlSelect

open Text

/-- A part of a template. -/
inductive TemplatePart where
  | text (cs : List Char)
  | limit
  | offset
  deriving DecidableEq

namespace TemplatePart

/-- The part as it stands in the template. -/
def chars : TemplatePart → List Char
  | text cs => cs
  | limit => limitMarker
  | offset => offsetMarker

/-- Whether the part has no brace besides those of a marker. -/
def isPlain : TemplatePart → Bool
  | text cs => !cs.contains '\x7b'
  | _ => true

/-- The part with a number in the place of a marker, if there is a number. -/
def put (marker : TemplatePart) (value : Option Int) (part : TemplatePart) : TemplatePart :=
  match value with
  | some n => if part = marker then text (toString n).toList else part
  | none => part

/-- What stands in the place of a part if both numbers are there. -/
def filled (n m : Int) : TemplatePart → List Char
  | text cs => cs
  | limit => (toString n).toList
  | offset => (toString m).toList

/-- The parts that are markers. -/
def markers : List TemplatePart := [limit, offset]

/-- Whether no marker starts in the texts among some parts. -/
def Parted : List TemplatePart → Prop
  | [] => True
  | text cs :: parts =>
    (∀ marker ∈ markers, PassesOver marker.chars cs (parts.flatMap chars)) ∧ Parted parts
  | _ :: parts => Parted parts

variable {marker part : TemplatePart} {parts : List TemplatePart}

/-! ### The markers -/

/-- A marker has one opening brace, at its start, and neither digits nor a minus sign. -/
theorem exists_name_of_mem_markers (h : marker ∈ markers) :
    ∃ name, marker.chars = '\x7b' :: name ∧ '\x7b' ∉ name ∧
      ∀ c ∈ name, c.isDigit = false ∧ c ≠ '-' := by
  rcases List.mem_pair.mp h with rfl | rfl
  · exact ⟨"limit\x7d".toList, rfl, by decide, by simp⟩
  · exact ⟨"offset\x7d".toList, rfl, by decide, by simp⟩

/-- The second characters of the markers differ. -/
theorem eq_of_isPrefix (hpart : part ∈ markers) (hmarker : marker ∈ markers) {rest : List Char}
    (h : marker.chars <+: part.chars ++ rest) : marker = part := by
  obtain ⟨behind, hbehind⟩ := h
  rcases List.mem_pair.mp hpart with rfl | rfl <;> rcases List.mem_pair.mp hmarker with rfl | rfl
  · rfl
  · cases (List.cons.inj (List.cons.inj hbehind).2).1
  · cases (List.cons.inj (List.cons.inj hbehind).2).1
  · rfl

/-- A marker does not begin inside of another one. -/
theorem passesOver_name (hmarker : marker ∈ markers) {name : List Char} (hname : '\x7b' ∉ name)
    (rest : List Char) : PassesOver marker.chars name rest := by
  obtain ⟨own, hchars, -, -⟩ := exists_name_of_mem_markers hmarker
  rw [hchars]
  exact passesOver_of_notMem hname rest

/-! ### The parts of a template -/

/-- A template is read from the left: where no marker starts, there is a character of its own. -/
theorem exists_parted (template : List Char) :
    ∃ parts, Parted parts ∧ parts.flatMap chars = template := by
  induction hlength : template.length using Nat.strong_induction_on generalizing template with
  | h length ih =>
    cases template with
    | nil => exact ⟨[], trivial, rfl⟩
    | cons c cs =>
      -- A marker is cut off where one starts, and a single character where none does.
      by_cases hstart : ∃ marker ∈ markers, marker.chars <+: c :: cs
      · obtain ⟨marker, hmarker, rest, hrest⟩ := hstart
        obtain ⟨name, hchars, -, -⟩ := exists_name_of_mem_markers hmarker
        have hshorter : rest.length < length := by
          rw [← hlength, ← hrest, hchars, List.length_append, List.length_cons]
          omega
        obtain ⟨parts, hparted, hparts⟩ := ih rest.length hshorter rest rfl
        refine ⟨marker :: parts, ?_, ?_⟩
        · rcases List.mem_pair.mp hmarker with rfl | rfl <;> exact hparted
        · rw [List.flatMap_cons, hparts, hrest]
      · have hshorter : cs.length < length := by
          rw [← hlength]
          exact Nat.lt_succ_self _
        obtain ⟨parts, hparted, hparts⟩ := ih cs.length hshorter cs rfl
        refine ⟨text [c] :: parts, ⟨?_, hparted⟩, ?_⟩
        · intro marker hmarker ending hne hending hhere
          rcases List.suffix_cons_iff.mp hending with rfl | hnil
          · rw [hparts] at hhere
            exact hstart ⟨marker, hmarker, hhere⟩
          · exact hne (List.suffix_nil.mp hnil)
        · rw [List.flatMap_cons, hparts]
          rfl

/-- Text without braces may stand between markers. -/
theorem parted_of_isPlain (h : ∀ part ∈ parts, part.isPlain = true) : Parted parts := by
  induction parts with
  | nil => trivial
  | cons part parts ih =>
    have hpart := h part List.mem_cons_self
    have hrest := ih fun p hp => h p (List.mem_cons_of_mem _ hp)
    cases part with
    | text cs =>
      have hcs : '\x7b' ∉ cs := by simpa [isPlain] using hpart
      exact ⟨fun marker hmarker => passesOver_name hmarker hcs _, hrest⟩
    | limit => exact hrest
    | offset => exact hrest

/-- What stands behind a part is a template of the same kind. -/
theorem Parted.tail (h : Parted (part :: parts)) : Parted parts := by
  cases part with
  | text cs => exact h.2
  | limit => exact h
  | offset => exact h

/-- An occurrence that starts in a part is the part itself. -/
theorem Parted.eq_of_starts (h : Parted (part :: parts)) (hmarker : marker ∈ markers)
    {before ending : List Char} (hpart : part.chars = before ++ ending) (hne : ending ≠ [])
    (hstart : marker.chars <+: ending ++ parts.flatMap chars) : before = [] ∧ part = marker := by
  by_cases htext : part ∈ markers
  · obtain ⟨name, hchars, hname, -⟩ := exists_name_of_mem_markers htext
    cases before with
    | nil =>
      rw [List.nil_append] at hpart
      rw [← hpart] at hstart
      exact ⟨rfl, (eq_of_isPrefix htext hmarker hstart).symm⟩
    | cons c before =>
      -- Behind its start, a marker has no brace.
      rw [hchars] at hpart
      have hbehind : '\x7b' ∉ ending := fun hmem =>
        hname ((List.cons.inj hpart).2 ▸ List.mem_append_right before hmem)
      exact absurd hstart (passesOver_name hmarker hbehind _ ending hne List.suffix_rfl)
  · cases part with
    | text cs => exact absurd hstart (h.1 marker hmarker ending hne ⟨before, hpart.symm⟩)
    | limit => exact absurd (by decide) htext
    | offset => exact absurd (by decide) htext

/-- Every occurrence of a marker in the whole is one of the parts. -/
theorem Parted.exists_of_eq_append (h : Parted parts) (hmarker : marker ∈ markers)
    {before after : List Char} (heq : parts.flatMap chars = before ++ (marker.chars ++ after)) :
    ∃ front rest, parts = front ++ marker :: rest ∧ front.flatMap chars = before ∧
      rest.flatMap chars = after := by
  induction parts generalizing before with
  | nil =>
    obtain ⟨name, hchars, -⟩ := exists_name_of_mem_markers hmarker
    rw [hchars] at heq
    simp at heq
  | cons part parts ih =>
    have hlater : ∀ between, part.chars ++ between = before →
        parts.flatMap chars = between ++ (marker.chars ++ after) →
        ∃ front rest, part :: parts = front ++ marker :: rest ∧ front.flatMap chars = before ∧
          rest.flatMap chars = after := by
      intro between hbefore hrest
      obtain ⟨front, rest, hparts, hfront, hafter⟩ := ih h.tail hrest
      exact ⟨part :: front, rest, congrArg (part :: ·) hparts,
        by rw [List.flatMap_cons, hfront, hbefore], hafter⟩
    rw [List.flatMap_cons] at heq
    -- The occurrence starts behind the first part, right at its end, or in it.
    rcases List.append_eq_append_iff.mp heq with ⟨between, hbefore, hrest⟩ | ⟨ending, hpart, hrest⟩
    · exact hlater between hbefore.symm hrest
    · by_cases hne : ending = []
      · rw [hne, List.append_nil] at hpart
        rw [hne, List.nil_append] at hrest
        exact hlater [] (by rw [List.append_nil, hpart]) hrest.symm
      · obtain ⟨rfl, rfl⟩ := h.eq_of_starts hmarker hpart hne ⟨after, hrest⟩
        rw [List.nil_append] at hpart
        rw [← hpart] at hrest
        exact ⟨[], parts, rfl, rfl, (List.append_cancel_left hrest).symm⟩

/-- A marker is found only where it is a part. -/
theorem Parted.not_isInfix (h : Parted parts) (hmarker : marker ∈ markers) (hnot : marker ∉ parts) :
    ¬ marker.chars <:+: parts.flatMap chars := by
  rintro ⟨before, after, heq⟩
  rw [List.append_assoc] at heq
  obtain ⟨front, rest, hparts, -, -⟩ := h.exists_of_eq_append hmarker heq.symm
  exact hnot (hparts ▸ List.mem_append_right front List.mem_cons_self)

/-! ### Numbers in the places of markers -/

/-- No brace comes from a number. -/
theorem brace_notMem_toString (n : Int) : '\x7b' ∉ (toString n).toList :=
  Number.notMem_toString_int rfl (by decide) n

/-- A part is left alone, or a number comes into its place. -/
theorem put_cases (marker part : TemplatePart) (value : Option Int) :
    put marker value part = part ∨
      ∃ n : Int, put marker value part = text (toString n).toList := by
  cases value with
  | none => exact .inl rfl
  | some n =>
    unfold put
    dsimp only
    split
    · exact .inr ⟨n, rfl⟩
    · exact .inl rfl

/-- No number has a character in it that a marker has behind its brace, so what may be the rest of a
marker has stood there before. -/
theorem isPrefix_of_isPrefix_put (parts : List TemplatePart) {value : Option Int} {w : List Char}
    (hw : ∀ c ∈ w, c.isDigit = false ∧ c ≠ '-')
    (h : w <+: (parts.map (put marker value)).flatMap chars) :
    w <+: parts.flatMap chars := by
  induction parts generalizing w with
  | nil => exact h
  | cons part parts ih =>
    rw [List.map_cons, List.flatMap_cons] at h
    rw [List.flatMap_cons]
    rcases put_cases marker part value with hsame | ⟨n, hnumber⟩
    · rw [hsame] at h
      rcases List.prefix_or_prefix_of_prefix h (List.prefix_append _ _) with hshort | ⟨rest, rfl⟩
      · exact hshort.trans (List.prefix_append _ _)
      · rw [List.prefix_append_right_inj] at h ⊢
        exact ih (fun c hc => hw c (List.mem_append_right _ hc)) h
    · -- The first character would have to be one of the number.
      cases w with
      | nil => exact List.nil_prefix
      | cons c w =>
        obtain ⟨hdigit, hminus⟩ := hw c List.mem_cons_self
        obtain ⟨d, ds, hds⟩ := List.exists_cons_of_ne_nil (Number.toString_int_ne_nil n)
        have hnot : c ∉ d :: ds := hds ▸ Number.notMem_toString_int hdigit hminus n
        rw [hnumber, chars, hds, List.cons_append, List.cons_prefix_cons] at h
        exact absurd (h.1 ▸ List.mem_cons_self) hnot

/-- Text between the markers stays as it is. -/
theorem put_text (hmarker : marker ∈ markers) (value : Option Int) (cs : List Char) :
    put marker value (text cs) = text cs := by
  cases value with
  | none => rfl
  | some n => rcases List.mem_pair.mp hmarker with rfl | rfl <;> rfl

/-- A number makes no marker of what stands around it. -/
theorem passesOver_put {other : TemplatePart} (hother : other ∈ markers)
    (hmarker : marker ∈ markers) (value : Option Int) {cs : List Char}
    (h : PassesOver other.chars cs (parts.flatMap chars)) :
    PassesOver other.chars cs ((parts.map (put marker value)).flatMap chars) := by
  intro ending hne hending hstart
  refine h ending hne hending ?_
  obtain ⟨name, hchars, -, hname⟩ := exists_name_of_mem_markers hother
  obtain ⟨c, ending, rfl⟩ := List.exists_cons_of_ne_nil hne
  rw [hchars, List.cons_append, List.cons_prefix_cons] at hstart ⊢
  refine ⟨hstart.1, ?_⟩
  -- What is left of the text is a part of its own here.
  have hparts : (((text ending :: parts).map (put marker value)).flatMap chars)
      = ending ++ (parts.map (put marker value)).flatMap chars := by
    rw [List.map_cons, List.flatMap_cons, put_text hmarker]
    rfl
  exact isPrefix_of_isPrefix_put (text ending :: parts) hname (hparts ▸ hstart.2)

/-- Putting a number in makes no new marker, neither in the number nor where it meets the text
around it. -/
theorem Parted.map_put (h : Parted parts) (hmarker : marker ∈ markers) (value : Option Int) :
    Parted (parts.map (put marker value)) := by
  induction parts with
  | nil => trivial
  | cons part parts ih =>
    have hrest := ih h.tail
    rw [List.map_cons]
    -- A part stays as it is, or is a marker that becomes a number.
    rcases put_cases marker part value with hsame | ⟨n, hnumber⟩
    · rw [hsame]
      cases part with
      | text cs =>
        exact ⟨fun other hother => passesOver_put hother hmarker value (h.1 other hother), hrest⟩
      | limit => exact hrest
      | offset => exact hrest
    · rw [hnumber]
      exact ⟨fun other hother => passesOver_name hother (brace_notMem_toString n) _, hrest⟩

/-- A marker is replaced where it is a part, and nowhere else. -/
theorem fillMarker_chars (hmarker : marker ∈ markers) (value : Option Int) (h : Parted parts) :
    LimitTemplate.fillMarker marker.chars value (parts.flatMap chars)
      = (parts.map (put marker value)).flatMap chars := by
  cases value with
  | none =>
    have hsame : parts.map (put marker none) = parts := List.map_id' parts
    rw [hsame]
    rfl
  | some n =>
    show replaceAll marker.chars (toString n).toList _ = _
    induction parts with
    | nil => rfl
    | cons part parts ih =>
      rw [List.flatMap_cons, List.map_cons, List.flatMap_cons, ← ih h.tail]
      cases part with
      | text cs =>
        rw [put_text hmarker]
        exact replaceAll_append_of_passesOver (h.1 marker hmarker)
      -- A marker is the one that is looked for, or differs from it in its second character.
      | limit =>
        rcases List.mem_pair.mp hmarker with rfl | rfl
        · exact replaceAll_marker_append _ _ _ _
        · rfl
      | offset =>
        rcases List.mem_pair.mp hmarker with rfl | rfl
        · rfl
        · exact replaceAll_marker_append _ _ _ _

theorem limit_mem_markers : limit ∈ markers := List.mem_cons_self

theorem offset_mem_markers : offset ∈ markers := List.mem_cons_of_mem limit List.mem_cons_self

/-- A template is filled part by part: what stands in the place of the limit has no marker of the
offset in it. -/
theorem fill_chars (h : Parted parts) (n m : Option Int) :
    LimitTemplate.fill (String.ofList (parts.flatMap chars)) n m
      = String.ofList (((parts.map (put limit n)).map (put offset m)).flatMap chars) := by
  rw [LimitTemplate.fill, String.toList_ofList]
  show String.ofList (LimitTemplate.fillMarker offset.chars m
    (LimitTemplate.fillMarker limit.chars n _)) = _
  rw [fillMarker_chars limit_mem_markers n h,
    fillMarker_chars offset_mem_markers m (h.map_put limit_mem_markers n)]

/-! ### Both numbers at once -/

/-- It does not matter which number is put in its place first. -/
theorem flatMap_filled (parts : List TemplatePart) (n m : Int) :
    ((parts.map (put limit (some n))).map (put offset (some m))).flatMap chars
        = parts.flatMap (filled n m) ∧
      ((parts.map (put offset (some m))).map (put limit (some n))).flatMap chars
        = parts.flatMap (filled n m) := by
  simp only [List.flatMap_map]
  constructor
  · exact List.flatMap_congr fun part _ => by cases part <;> rfl
  · exact List.flatMap_congr fun part _ => by cases part <;> rfl

/-- With both numbers in their places there is no part left that is a marker. -/
theorem notMem_put_put (parts : List TemplatePart) (n m : Int) (hmarker : marker ∈ markers) :
    marker ∉ (parts.map (put limit (some n))).map (put offset (some m)) := by
  intro hmem
  rw [List.map_map] at hmem
  obtain ⟨part, -, rfl⟩ := List.mem_map.mp hmem
  cases part <;> exact absurd hmarker (by simp [markers, put])

/-- No marker is left when both numbers are in their places. -/
theorem Parted.not_isInfix_filled (h : Parted parts) (hmarker : marker ∈ markers) (n m : Int) :
    ¬ marker.chars <:+: parts.flatMap (filled n m) := by
  have hput := (h.map_put limit_mem_markers (some n)).map_put offset_mem_markers (some m)
  rw [← (flatMap_filled parts n m).1]
  exact hput.not_isInfix hmarker (notMem_put_put parts n m hmarker)

end TemplatePart

open TemplatePart in
/-- Any text is a template of markers and of other text around them, where a part that is a marker
stands for every occurrence of it. With a limit and an offset, the clause is this template with both
numbers in the places of their markers at once and all other text as it was. It is the same if the
offset is put in first, and there are no markers in it. -/
theorem LimitTemplate.render_simultaneous (t : LimitTemplate) (n m : Int) :
    ∃ parts : List TemplatePart, parts.flatMap chars = t.limitOffset.toList ∧
      (∀ marker ∈ markers, ∀ before after,
        t.limitOffset.toList = before ++ (marker.chars ++ after) →
          ∃ front rest, parts = front ++ marker :: rest ∧ front.flatMap chars = before ∧
            rest.flatMap chars = after) ∧
      t.render (some n) (some m) = some (String.ofList (parts.flatMap (filled n m))) ∧
      fillMarker limitMarker (some n) (fillMarker offsetMarker (some m) t.limitOffset.toList)
        = parts.flatMap (filled n m) ∧
      ∀ marker ∈ markers, ¬ marker.chars <:+: parts.flatMap (filled n m) := by
  obtain ⟨parts, hparted, hparts⟩ := exists_parted t.limitOffset.toList
  refine ⟨parts, hparts, ?_, ?_, ?_, fun marker hmarker => ?_⟩
  · intro marker hmarker before after heq
    exact hparted.exists_of_eq_append hmarker (hparts.trans heq)
  · have htemplate : t.limitOffset = String.ofList (parts.flatMap chars) := by
      rw [hparts, String.ofList_toList]
    show some (fill t.limitOffset (some n) (some m)) = _
    rw [htemplate, fill_chars hparted, (flatMap_filled parts n m).1]
  · rw [← hparts]
    show fillMarker TemplatePart.limit.chars (some n)
      (fillMarker TemplatePart.offset.chars (some m) _) = _
    -- The other order: what the offset has put in is parted as well, so the limit finds its own
    -- markers in it.
    rw [fillMarker_chars offset_mem_markers (some m) hparted,
      fillMarker_chars limit_mem_markers (some n) (hparted.map_put offset_mem_markers (some m)),
      (flatMap_filled parts n m).2]
  · exact hparted.not_isInfix_filled hmarker n m

/-- A number that is put inside of another marker does not complete it. -/
example :
    (LimitTemplate.mk "" "\x7blim\x7boffset\x7dit\x7d, \x7blimit\x7d" none).render (some 5)
      (some 3) = some "\x7blim3it\x7d, 5" := by
  decide

end SqlSelect
