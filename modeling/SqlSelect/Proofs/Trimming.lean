import Mathlib.Data.List.DropRight
import SqlSelect.Proofs.Digits
import SqlSelect.Text.Blank
import SqlSelect.Text.Segment

/-!
# `SqlSelect.Proofs.Trimming`: trimmed texts

`trim` takes the blanks off both ends of a text. What it leaves neither starts nor ends with a
blank, and a text of that kind is left as it is. Letter case has nothing to do with it.

* `Text.trim_trim`: a trimmed text is left as it is.
* `Text.trim_append_blank`: a trimmed text with another one behind a blank.
* `Text.trim_map_toLower`, `Text.lowerAscii_lowerAscii`: trimming and lower case.
-/

set_option autoImplicit false

namespace SqlSelect.Text

variable {cs behind : List Char}

/-! ### Trimming -/

/-- From `!` to `~` there is no blank. -/
theorem isBlank_eq_false {c : Char} (hlow : 0x20 < c.toNat) (hhigh : c.toNat < 0x7f) :
    isBlank c = false := by
  simp only [isBlank, Bool.or_eq_false_iff, Bool.and_eq_false_iff, decide_eq_false_iff_not,
    beq_eq_false_iff_ne]
  omega

/-- A digit is no blank, so a number is never trimmed. -/
theorem isBlank_of_isDigit {c : Char} (h : c.isDigit = true) : isBlank c = false := by
  obtain ⟨hlow, hhigh⟩ := Number.toNat_of_isDigit h
  exact isBlank_eq_false (by omega) (by omega)

/-- Nothing is taken off a text in front of a character that is no blank. -/
theorem trimStart_cons {c : Char} (hc : isBlank c = false) (rest : List Char) :
    trimStart (c :: rest) = c :: rest :=
  List.dropWhile_cons_of_neg (by simp [hc])

/-- What is taken off the end leaves the front as it is. -/
theorem trimStart_trim (cs : List Char) : trimStart (trim cs) = trim cs := by
  have hfront : trim cs <+: trimStart cs := List.rdropWhile_prefix isBlank (trimStart cs)
  cases htrim : trim cs with
  | nil => rfl
  | cons c rest =>
    rw [htrim] at hfront
    obtain ⟨after, hafter⟩ := hfront
    have hstart := List.head?_dropWhile_not isBlank cs
    rw [show cs.dropWhile isBlank = c :: (rest ++ after) from hafter.symm] at hstart
    exact trimStart_cons hstart rest

/-- A trimmed text has no blanks behind it. -/
theorem trimEnd_trim (cs : List Char) : trimEnd (trim cs) = trim cs :=
  List.rdropWhile_idempotent isBlank (trimStart cs)

/-- Trimming twice is trimming once. -/
theorem trim_trim (cs : List Char) : trim (trim cs) = trim cs := by
  rw [trim, trimStart_trim, trimEnd_trim]

/-- Trimming takes characters off the ends and out of nowhere else. -/
theorem isInfix_trim (cs : List Char) : trim cs <:+: cs :=
  (List.rdropWhile_prefix isBlank (trimStart cs)).isInfix.trans
    (List.dropWhile_suffix isBlank).isInfix

/-- A text that trimming leaves alone has no blanks in front. -/
theorem trimStart_of_trim (h : trim cs = cs) : trimStart cs = cs := by
  rw [← h, trimStart_trim]

/-- A text that trimming leaves alone has no blanks behind it. -/
theorem trimEnd_of_trim (h : trim cs = cs) : trimEnd cs = cs := by
  rw [← h, trimEnd_trim]

/-- A text without blanks is left alone. -/
theorem trim_of_forall_not_isBlank (h : ∀ c ∈ cs, isBlank c = false) : trim cs = cs := by
  have hstart : trimStart cs = cs :=
    List.dropWhile_eq_self_iff.mpr fun hl => by simp [h _ (List.getElem_mem hl)]
  have hend : trimEnd cs = cs :=
    List.rdropWhile_eq_self_iff.mpr fun hl => by simp [h _ (List.getLast_mem hl)]
  rw [trim, hstart, hend]

/-- The last character of a text decides what is taken off its end. -/
theorem trimEnd_append (hne : behind ≠ []) (h : trimEnd behind = behind) (cs : List Char) :
    trimEnd (cs ++ behind) = cs ++ behind := by
  apply List.rdropWhile_eq_self_iff.mpr
  intro hl
  rw [List.getLast_append_of_ne_nil hl hne]
  exact List.rdropWhile_eq_self_iff.mp h hne

/-- The blank between two trimmed texts stays, unless there is nothing in front of it. -/
theorem trim_append_blank (h : trim cs = cs) (hne : behind ≠ []) (hbehind : trim behind = behind) :
    trim (cs ++ ' ' :: behind) = if cs = [] then behind else cs ++ ' ' :: behind := by
  cases cs with
  | nil => exact hbehind
  | cons c rest =>
    have hstart : trimStart (c :: rest ++ ' ' :: behind) = c :: rest ++ ' ' :: behind := by
      have hc := List.dropWhile_eq_self_iff.mp (trimStart_of_trim h) (Nat.succ_pos _)
      exact trimStart_cons (by simpa using hc) _
    rw [if_neg (List.cons_ne_nil c rest), trim, hstart, List.append_cons]
    exact trimEnd_append hne (trimEnd_of_trim hbehind) _

/-! ### Lower case -/

/-- Only the letters from `A` to `Z` have another code in lower case. -/
theorem toNat_toLower (c : Char) :
    c.toLower.toNat = if 65 ≤ c.toNat ∧ c.toNat ≤ 90 then c.toNat + 32 else c.toNat := by
  unfold Char.toLower
  split
  · rename_i hupper
    have hlow : 65 ≤ c.toNat := hupper.1
    have hhigh : c.toNat ≤ 90 := hupper.2
    rw [if_pos ⟨hlow, hhigh⟩]
    show (c.val + 32).toNat = c.toNat + 32
    rw [UInt32.toNat_add]
    exact Nat.mod_eq_of_lt (Nat.lt_of_le_of_lt (Nat.add_le_add_right hhigh 32) (by decide))
  · rename_i hupper
    exact (if_neg hupper).symm

/-- A lower-case letter has no lower-case letter other than itself. -/
theorem toLower_toLower (c : Char) : c.toLower.toLower = c.toLower := by
  refine Char.toNat_inj.mp ?_
  rw [toNat_toLower c.toLower, toNat_toLower]
  by_cases hupper : 65 ≤ c.toNat ∧ c.toNat ≤ 90
  · rw [if_pos hupper, if_neg (by omega)]
  · rw [if_neg hupper, if_neg hupper]

/-- No letter is a blank, so letter case does not matter to blanks. -/
theorem isBlank_toLower (c : Char) : isBlank c.toLower = isBlank c := by
  have hcode := toNat_toLower c
  by_cases hupper : 65 ≤ c.toNat ∧ c.toNat ≤ 90
  · rw [if_pos hupper] at hcode
    rw [isBlank_eq_false (by omega) (by omega), isBlank_eq_false (by omega) (by omega)]
  · rw [if_neg hupper] at hcode
    rw [Char.toNat_inj.mp hcode]

/-- Blanks stay blanks in lower case and nothing else becomes one, so it does not matter which of
the two is done first. -/
theorem trim_map_toLower (cs : List Char) :
    trim (cs.map Char.toLower) = (trim cs).map Char.toLower := by
  have hblank : isBlank ∘ Char.toLower = isBlank := funext isBlank_toLower
  rw [trim, trim, trimEnd, trimEnd, trimStart, trimStart, List.dropWhile_map, hblank,
    ← List.map_reverse, List.dropWhile_map, hblank, ← List.map_reverse]

/-- Lower case is taken character by character. -/
theorem toList_lowerAscii (s : String) : (lowerAscii s).toList = s.toList.map Char.toLower := by
  rw [lowerAscii, String.toList_ofList]

/-- A text in lower case is left as it is. -/
theorem lowerAscii_lowerAscii (s : String) : lowerAscii (lowerAscii s) = lowerAscii s := by
  rw [lowerAscii, toList_lowerAscii, List.map_map]
  exact congrArg String.ofList (List.map_congr_left fun c _ => toLower_toLower c)

end SqlSelect.Text
