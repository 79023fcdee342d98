import SqlSelect.Proofs.Digits
import SqlSelect.Value.Literal

/-!
# `SqlSelect.Proofs.Literals.Figures`: the characters of numbers and dates

Numbers, dates and times of day are written with letters, digits and a few signs between them.
There is no quote among these *figures* and no backslash.

* `IsFigures.intText`, `IsFigures.binaryText`, `IsFigures.fixedPointText`: numbers.
* `IsFigures.dateLayout`, `IsFigures.timeLayout`: dates and times of day, whatever stands between
  their numbers.
* `IsFigures.hexBytes`: bytes in hexadecimal.
-/

set_option autoImplicit false

namespace SqlSelect

open Number Text

/-- Whether a character occurs in numbers, dates and times of day. -/
def isFigure (c : Char) : Bool :=
  c.isAlphanum || c ∈ ['+', '-', '.', ':', ' ']

/-- Whether a text is made of figures. -/
def IsFigures (cs : List Char) : Prop :=
  ∀ c ∈ cs, isFigure c = true

instance (cs : List Char) : Decidable (IsFigures cs) :=
  List.decidableBAll (fun c => isFigure c = true) cs

namespace IsFigures

variable {c : Char} {cs ds : List Char} {s t : String}

theorem cons (hc : isFigure c = true) (h : IsFigures cs) : IsFigures (c :: cs) := by
  intro d hd
  rcases List.mem_cons.mp hd with rfl | hd
  · exact hc
  · exact h d hd

theorem append (h : IsFigures cs) (h' : IsFigures ds) : IsFigures (cs ++ ds) := by
  intro c hc
  rcases List.mem_append.mp hc with hc | hc
  · exact h c hc
  · exact h' c hc

theorem append_string (h : IsFigures s.toList) (h' : IsFigures t.toList) :
    IsFigures (s ++ t).toList := by
  rw [String.toList_append]
  exact h.append h'

/-- Where all characters are figures, some of them are. -/
theorem mono (h : IsFigures cs) (hsub : ds ⊆ cs) : IsFigures ds :=
  fun c hc => h c (hsub hc)

/-- One figure, many times. -/
theorem replicate (h : isFigure c = true) (n : Nat) :
    IsFigures (List.replicate n c) := by
  intro d hd
  rw [List.eq_of_mem_replicate hd]
  exact h

/-- Padding adds a filler, so only this has to be a figure. -/
theorem padStart {filler : Char} (hfiller : isFigure filler = true) (width : Nat)
    (h : IsFigures s.toList) : IsFigures (Text.padStart width filler s).toList := by
  unfold Text.padStart
  rw [String.toList_append, String.toList_ofList]
  exact (replicate hfiller _).append h

/-! ### Numbers -/

/-- Digits are figures. -/
theorem digits (n : Nat) : IsFigures (Number.digits n) := by
  intro c hc
  have hdigit := isDigit_of_mem_digits hc
  simp [isFigure, Char.isAlphanum, hdigit]

/-- A natural number is written with figures. -/
theorem natText (n : Nat) : IsFigures (toString n).toList := by
  rw [toList_toString]
  exact digits n

/-- An integer is written with figures, its minus sign among them. -/
theorem intText (n : Int) : IsFigures (toString n).toList := by
  cases n with
  | ofNat k => exact natText k
  | negSucc k =>
    show IsFigures ("-" ++ toString (k + 1)).toList
    exact append_string (by decide) (natText (k + 1))

/-- Leading zeros are figures. -/
theorem paddedNumber (width n : Nat) : IsFigures (SqlSelect.paddedNumber width n).toList := by
  refine padStart (by decide) width ?_
  rw [String.toList_ofList]
  exact digits n

/-- A sign is a figure, and there may be none. -/
theorem signText (negative : Bool) : IsFigures (Number.signText negative) := by
  cases negative <;> decide

/-- A numeral without a power of ten, wherever its point is. -/
theorem plainNumeral (x : Numeral) : IsFigures x.plain := by
  have hdigits := digits x.significand
  have hzeros := fun n => replicate (c := '0') (by decide) n
  unfold Numeral.plain
  dsimp only
  split
  · exact hdigits.append (hzeros _)
  · split
    · have hwhole := fun n => hdigits.mono (List.take_subset n _)
      have hpart := fun n => hdigits.mono (List.drop_subset n _)
      exact (hwhole _).append (cons (by decide) (hpart _))
    · exact cons (by decide) (cons (by decide) ((hzeros _).append hdigits))

/-- A floating-point number is written with figures, and so are the words for those that are not
finite. -/
theorem binaryText {f : BinaryFormat} (x : Binary f) : IsFigures x.plainText.toList := by
  cases x with
  | nan =>
    show IsFigures "NaN".toList
    decide
  | infinite negative =>
    rw [Binary.plainText, String.toList_ofList]
    exact (signText negative).append (by decide)
  | finite negative rank =>
    rw [Binary.plainText, String.toList_ofList]
    refine (signText negative).append ?_
    split
    · decide
    · exact plainNumeral _

/-- A number with a fixed point is written with figures. -/
theorem fixedPointText (x : FixedPoint) : IsFigures x.text.toList := by
  have hdigits := (replicate (c := '0') (by decide)
    (x.places + 1 - (Number.digits x.coefficient).length)).append (digits x.coefficient)
  have hwhole := fun n => hdigits.mono (List.take_subset n _)
  have hpart := fun n => hdigits.mono (List.drop_subset n _)
  unfold FixedPoint.text
  dsimp only
  rw [String.toList_ofList]
  refine append (append ?_ (hwhole _)) ?_
  · exact signText x.negative
  · split
    · decide
    · exact cons (by decide) (hpart _)

/-! ### Dates, times and bytes -/

/-- A year is written with figures, its sign too. -/
theorem yearText (year : Int) : IsFigures (Date.yearText year).toList := by
  unfold Date.yearText
  split
  · exact paddedNumber 4 _
  · refine append_string ?_ (paddedNumber 4 _)
    split <;> decide

/-- A date is written with figures if what stands between its numbers is. -/
theorem dateLayout (h : IsFigures s.toList) (d : Date) : IsFigures (d.layout s).toList :=
  ((((yearText d.year).append_string h).append_string (paddedNumber 2 d.month)).append_string
    h).append_string (paddedNumber 2 d.day)

/-- A time of day is written with figures if what stands between its numbers is. -/
theorem timeLayout (h : IsFigures s.toList) (t : Time) : IsFigures (t.layout s).toList :=
  ((((paddedNumber 2 t.hour).append_string h).append_string (paddedNumber 2 t.minute)).append_string
    h).append_string (paddedNumber 2 t.writtenSecond)

/-- A byte has two digits; there are few enough bytes to look at each. -/
theorem hexByte (b : UInt8) : IsFigures (SqlSelect.hexByte b).toList := by
  have hall : ∀ n : Fin 256, IsFigures (SqlSelect.hexByte (UInt8.ofNat n)).toList := by
    decide +kernel
  have hb := hall ⟨b.toNat, b.toNat_lt⟩
  rwa [UInt8.ofNat_toNat] at hb

/-- Bytes in hexadecimal are figures. -/
theorem hexBytes (bs : List UInt8) :
    IsFigures (String.join (bs.map SqlSelect.hexByte)).toList := by
  induction bs with
  | nil => decide
  | cons b bs ih =>
    rw [List.map_cons, String.join_cons]
    exact (hexByte b).append_string ih

end IsFigures

end SqlSelect
