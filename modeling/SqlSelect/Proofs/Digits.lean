import SqlSelect.Number.Numeral

/-!
# `SqlSelect.Proofs.Digits`: the characters of a written integer

An integer is written with decimal digits, behind a minus sign if it is negative, and with nothing
else. The digits spell it.

* `Number.digitsValue_digits`, `Number.eq_of_toString_eq`: the number that digits spell.
* `Number.isDigit_of_mem_digits`, `Number.notMem_toString`, `Number.notMem_toString_int`,
  `Number.toString_int_ne_nil`: what a written integer has in it.
-/

set_option autoImplicit false

namespace SqlSelect.Number

/-- The text of a number is made of its digits. -/
theorem toList_toString (n : Nat) : (toString n).toList = digits n :=
  Nat.toList_repr

/-- Decimal digits are the only characters of a written number. -/
theorem isDigit_of_mem_digits {n : Nat} {c : Char} (h : c ∈ digits n) : c.isDigit = true :=
  Nat.isDigit_of_mem_toDigits (by decide) (by decide) h

/-- The digits have the codes from `0` to `9`. -/
theorem toNat_of_isDigit {c : Char} (h : c.isDigit = true) : 48 ≤ c.toNat ∧ c.toNat ≤ 57 := by
  rw [Char.isDigit, Bool.and_eq_true, decide_eq_true_eq, decide_eq_true_eq] at h
  exact h

/-- Reading the digits of a number gives the number back. -/
theorem digitsValue_digits (n : Nat) : digitsValue (digits n) = n := by
  rw [digitsValue, digits]
  exact Nat.ofDigitChars_eq_foldl.symm.trans Nat.ofDigitChars_ten_toDigits

/-- Different numbers are written with different digits. -/
theorem eq_of_toString_eq {m n : Nat} (h : toString m = toString n) : m = n := by
  have hdigits : digits m = digits n := by
    rw [← toList_toString, ← toList_toString, h]
  rw [← digitsValue_digits m, hdigits, digitsValue_digits]

variable {c : Char}

/-- A natural number has digits in it and nothing else. -/
theorem notMem_toString (hc : c.isDigit = false) (n : Nat) : c ∉ (toString n).toList := by
  rw [toList_toString]
  intro hmem
  rw [isDigit_of_mem_digits hmem] at hc
  cases hc

/-- An integer may also have a minus sign in it. -/
theorem notMem_toString_int (hc : c.isDigit = false) (hminus : c ≠ '-') (n : Int) :
    c ∉ (toString n).toList := by
  cases n with
  | ofNat k => exact notMem_toString hc k
  | negSucc k =>
    show c ∉ ("-" ++ toString (k + 1)).toList
    rw [String.toList_append, List.mem_append]
    rintro (h | h)
    · exact hminus (List.mem_singleton.mp h)
    · exact notMem_toString hc (k + 1) h

/-- Every number has a digit, zero too. -/
theorem digits_ne_nil (n : Nat) : digits n ≠ [] :=
  List.ne_nil_of_length_pos Nat.length_toDigits_pos

/-- There is no integer without a character. -/
theorem toString_int_ne_nil (n : Int) : (toString n).toList ≠ [] := by
  cases n with
  | ofNat k =>
    show (toString k).toList ≠ []
    rw [toList_toString]
    exact digits_ne_nil k
  | negSucc k =>
    show ("-" ++ toString (k + 1)).toList ≠ []
    rw [String.toList_append]
    exact List.cons_ne_nil '-' _

end SqlSelect.Number
