/-!
# `SqlSelect.Text.Segment`: cutting, joining and filling texts

Texts are lists of characters here. `splitAt?` and `splitAtLast?` cut at the first and the last
place of a character, `segments` at every place, and `replaceAll` puts a text in the place of
every occurrence of another, from the left and without overlap.

* `eq_append_of_splitAt?`, `eq_append_of_splitAtLast?`: where a text is cut.
* `splitAt?_append_of_notMem`, `splitAtLast?_append_of_notMem`: a text put together is cut into its
  parts.
* `splitAt?_eq_none_iff`: a text is not cut exactly if it lacks the character.
* `intercalate_segments`: the segments joined again are the text.
* `segments_append_of_notMem`: the first segment and the others.
* `replaceAll_marker_append`, `replaceAll_append_of_passesOver`: what is replaced and what is not.
-/

set_option autoImplicit false

namespace SqlSelect.Text

/-- The parts before and after the first `c`, if there is one. -/
def splitAt? (c : Char) : List Char → Option (List Char × List Char)
  | [] => none
  | d :: cs =>
    if d = c then some ([], cs)
    else (splitAt? c cs).map fun (before, after) => (d :: before, after)

/-- What follows the first `c` is shorter than the whole. -/
theorem length_lt_of_splitAt? {c : Char} {cs before after : List Char}
    (h : splitAt? c cs = some (before, after)) : after.length < cs.length := by
  induction cs generalizing before with
  | nil => simp [splitAt?] at h
  | cons d cs ih =>
    simp only [splitAt?] at h
    split at h
    · simp only [Option.some.injEq, Prod.mk.injEq] at h
      simp [h.2]
    · simp only [Option.map_eq_some_iff, Prod.mk.injEq] at h
      obtain ⟨⟨b, a⟩, h1, -, h2⟩ := h
      subst h2
      have := ih h1
      simp only [List.length_cons] at this ⊢
      omega

/-- A cut takes one character out, and it is the first of its kind. -/
theorem eq_append_of_splitAt? {c : Char} {cs before after : List Char}
    (h : splitAt? c cs = some (before, after)) : cs = before ++ c :: after ∧ c ∉ before := by
  induction cs generalizing before with
  | nil => simp [splitAt?] at h
  | cons d cs ih =>
    simp only [splitAt?] at h
    split at h
    · rename_i hd
      simp only [Option.some.injEq, Prod.mk.injEq] at h
      obtain ⟨rfl, rfl⟩ := h
      simp [hd]
    · rename_i hd
      simp only [Option.map_eq_some_iff, Prod.mk.injEq] at h
      obtain ⟨⟨b, a⟩, h1, rfl, rfl⟩ := h
      obtain ⟨rfl, hb⟩ := ih h1
      exact ⟨rfl, by simp [hb, Ne.symm hd]⟩

/-- A text is cut exactly if it has the character. -/
theorem splitAt?_eq_none_iff {c : Char} {cs : List Char} : splitAt? c cs = none ↔ c ∉ cs := by
  induction cs with
  | nil => simp [splitAt?]
  | cons d cs ih =>
    simp only [splitAt?, List.mem_cons, not_or]
    split
    · rename_i hd
      simp [hd]
    · rename_i hd
      simp [ih, Ne.symm hd]

/-- Behind a text without the character, a text is cut at once. -/
theorem splitAt?_append_of_notMem {c : Char} {before : List Char} (h : c ∉ before)
    (after : List Char) : splitAt? c (before ++ c :: after) = some (before, after) := by
  induction before with
  | nil => rw [List.nil_append, splitAt?, if_pos rfl]
  | cons d before ih =>
    rw [List.mem_cons, not_or] at h
    rw [List.cons_append, splitAt?, if_neg (Ne.symm h.1), ih h.2]
    rfl

/-- The parts before and after the last `c`, if there is one. -/
def splitAtLast? (c : Char) : List Char → Option (List Char × List Char)
  | [] => none
  | d :: cs =>
    match splitAtLast? c cs with
    | some (before, after) => some (d :: before, after)
    | none => if d = c then some ([], cs) else none

/-- The same for the cut from the end. -/
theorem splitAtLast?_eq_none_iff {c : Char} {cs : List Char} :
    splitAtLast? c cs = none ↔ c ∉ cs := by
  induction cs with
  | nil => simp [splitAtLast?]
  | cons d cs ih =>
    simp only [splitAtLast?, List.mem_cons, not_or]
    split
    · rename_i b a hcs
      have hc : c ∈ cs := by
        by_cases hc : c ∈ cs
        · exact hc
        · simp [ih.2 hc] at hcs
      simp [hc]
    · rename_i hcs
      have hc := ih.1 hcs
      split
      · rename_i hd
        simp [hd]
      · rename_i hd
        simp [hc, Ne.symm hd]

/-- A cut from the end takes out the last character of its kind. -/
theorem eq_append_of_splitAtLast? {c : Char} {cs before after : List Char}
    (h : splitAtLast? c cs = some (before, after)) : cs = before ++ c :: after ∧ c ∉ after := by
  induction cs generalizing before with
  | nil => simp [splitAtLast?] at h
  | cons d cs ih =>
    simp only [splitAtLast?] at h
    split at h
    · rename_i b a hcs
      simp only [Option.some.injEq, Prod.mk.injEq] at h
      obtain ⟨rfl, rfl⟩ := h
      obtain ⟨rfl, ha⟩ := ih hcs
      exact ⟨rfl, ha⟩
    · rename_i hcs
      split at h
      · rename_i hd
        simp only [Option.some.injEq, Prod.mk.injEq] at h
        obtain ⟨rfl, rfl⟩ := h
        exact ⟨by simp [hd], splitAtLast?_eq_none_iff.1 hcs⟩
      · simp at h

/-- An ending without `c` stands behind the last `c`. -/
theorem isSuffix_of_splitAtLast? {c : Char} {cs before after ending : List Char}
    (h : splitAtLast? c cs = some (before, after)) (hending : ending <:+ cs) (hc : c ∉ ending) :
    ending <:+ after := by
  obtain ⟨rfl, -⟩ := eq_append_of_splitAtLast? h
  have hbehind : c :: after <:+ before ++ c :: after := List.suffix_append before (c :: after)
  rcases List.suffix_or_suffix_of_suffix hending hbehind with hshort | hlong
  · rcases List.suffix_cons_iff.mp hshort with rfl | hafter
    · exact absurd List.mem_cons_self hc
    · exact hafter
  · exact absurd (hlong.subset List.mem_cons_self) hc

/-- A text is cut at a `c` behind which there is no other one. -/
theorem splitAtLast?_append_of_notMem {c : Char} {after : List Char} (h : c ∉ after)
    (before : List Char) : splitAtLast? c (before ++ c :: after) = some (before, after) := by
  induction before with
  | nil => rw [List.nil_append, splitAtLast?, splitAtLast?_eq_none_iff.mpr h, if_pos rfl]
  | cons d before ih => rw [List.cons_append, splitAtLast?, ih]

/-- The parts between the places of `c`; their number is one more than the number of places. -/
def segments (c : Char) : List Char → List (List Char)
  | [] => [[]]
  | d :: cs =>
    if d = c then [] :: segments c cs
    else match segments c cs with
      | [] => [[d]]
      | first :: rest => (d :: first) :: rest

/-- Every text has a segment, the empty one too. -/
theorem segments_ne_nil (c : Char) (cs : List Char) : segments c cs ≠ [] := by
  cases cs with
  | nil => simp [segments]
  | cons d cs =>
    simp only [segments]
    split
    · simp
    · split <;> simp

/-- Cutting loses nothing but the characters that are cut at. -/
theorem intercalate_segments (c : Char) (cs : List Char) :
    [c].intercalate (segments c cs) = cs := by
  induction cs with
  | nil => rfl
  | cons d cs ih =>
    simp only [segments]
    split
    · rename_i hd
      cases hs : segments c cs with
      | nil => exact absurd hs (segments_ne_nil c cs)
      | cons first rest =>
        rw [hs] at ih
        subst hd
        simpa [List.intercalate] using ih
    · cases hs : segments c cs with
      | nil => exact absurd hs (segments_ne_nil c cs)
      | cons first rest =>
        rw [hs] at ih
        cases rest with
        | nil => simpa [List.intercalate] using ih
        | cons second rest => simpa [List.intercalate] using ih

/-- A text without the character is one segment. -/
theorem segments_of_notMem {c : Char} {cs : List Char} (h : c ∉ cs) : segments c cs = [cs] := by
  induction cs with
  | nil => rfl
  | cons d cs ih =>
    rw [List.mem_cons, not_or] at h
    rw [segments, if_neg (Ne.symm h.1), ih h.2]

/-- The first segment ends at the first `c`. -/
theorem segments_append_of_notMem {c : Char} {before : List Char} (h : c ∉ before)
    (after : List Char) : segments c (before ++ c :: after) = before :: segments c after := by
  induction before with
  | nil => rw [List.nil_append, segments, if_pos rfl]
  | cons d before ih =>
    rw [List.mem_cons, not_or] at h
    rw [List.cons_append, segments, if_neg (Ne.symm h.1), ih h.2]

/-- Every occurrence of `c` is written twice. -/
def doubleChar (c : Char) (cs : List Char) : List Char :=
  cs.flatMap fun d => if d = c then [d, d] else [d]

/-- Doubling a character makes no text shorter. -/
theorem length_le_doubleChar (c : Char) (cs : List Char) :
    cs.length ≤ (doubleChar c cs).length := by
  induction cs with
  | nil => exact Nat.le_refl _
  | cons d cs ih =>
    have hfirst : 1 ≤ (if d = c then [d, d] else [d]).length := by
      split <;> simp
    show cs.length + 1 ≤ ((if d = c then [d, d] else [d]) ++ doubleChar c cs).length
    rw [List.length_append]
    omega

/-- The walk of `replaceAll`; `skip` counts the characters of an occurrence that are still to be
passed over. -/
def replaceFrom (marker filling : List Char) : Nat → List Char → List Char
  | _, [] => []
  | skip + 1, _ :: cs => replaceFrom marker filling skip cs
  | 0, c :: cs =>
    if marker.isPrefixOf (c :: cs) then
      filling ++ replaceFrom marker filling (marker.length - 1) cs
    else c :: replaceFrom marker filling 0 cs

/-- `filling` stands in the place of every occurrence of the non-empty text `marker`, found from
the left and without overlap. -/
def replaceAll (marker filling text : List Char) : List Char :=
  replaceFrom marker filling 0 text

/-- A marker that is being skipped has no effect on the text behind it. -/
theorem replaceFrom_append (marker filling xs ys : List Char) :
    replaceFrom marker filling xs.length (xs ++ ys) = replaceFrom marker filling 0 ys := by
  induction xs with
  | nil => rfl
  | cons x xs ih => exact ih

/-- A marker at the start is replaced. -/
theorem replaceAll_marker_append (c : Char) (marker filling text : List Char) :
    replaceAll (c :: marker) filling (c :: marker ++ text)
      = filling ++ replaceAll (c :: marker) filling text := by
  have hstart : (c :: marker).isPrefixOf (c :: (marker ++ text)) = true :=
    List.isPrefixOf_iff_prefix.mpr ⟨text, rfl⟩
  show replaceFrom (c :: marker) filling 0 (c :: (marker ++ text)) = _
  rw [replaceFrom, if_pos hstart, List.length_cons, Nat.add_sub_cancel, replaceFrom_append]
  rfl

/-- Whether no occurrence of a marker starts in a text that has another one behind it. -/
def PassesOver (marker xs text : List Char) : Prop :=
  ∀ ending, ending ≠ [] → ending <:+ xs → ¬ marker <+: ending ++ text

/-- What no occurrence starts in is left as it is. -/
theorem replaceAll_append_of_passesOver {marker filling xs text : List Char}
    (h : PassesOver marker xs text) :
    replaceAll marker filling (xs ++ text) = xs ++ replaceAll marker filling text := by
  induction xs with
  | nil => rfl
  | cons x xs ih =>
    have hstart : marker.isPrefixOf (x :: (xs ++ text)) = false := by
      rw [Bool.eq_false_iff, ne_eq, List.isPrefixOf_iff_prefix]
      exact h (x :: xs) (List.cons_ne_nil x xs) List.suffix_rfl
    have hrest : PassesOver marker xs text := fun ending hne hending =>
      h ending hne (hending.trans (List.suffix_cons x xs))
    show replaceFrom marker filling 0 (x :: (xs ++ text)) = _
    rw [replaceFrom, hstart, if_neg Bool.false_ne_true]
    exact congrArg (x :: ·) (ih hrest)

/-- No occurrence starts where the first character of the marker is missing. -/
theorem passesOver_of_notMem {c : Char} {marker xs : List Char} (h : c ∉ xs) (text : List Char) :
    PassesOver (c :: marker) xs text := by
  intro ending hne hending hstart
  obtain ⟨d, rest, rfl⟩ := List.exists_cons_of_ne_nil hne
  rw [List.cons_append, List.cons_prefix_cons] at hstart
  exact h (hstart.1 ▸ hending.subset List.mem_cons_self)

/-- The text in lower case; only the letters `A` to `Z` change. -/
def lowerAscii (s : String) : String :=
  String.ofList (s.toList.map Char.toLower)

/-- The text filled up in front to `width` characters. -/
def padStart (width : Nat) (filler : Char) (s : String) : String :=
  String.ofList (List.replicate (width - s.length) filler) ++ s

end SqlSelect.Text
