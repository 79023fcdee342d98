import Mathlib.Algebra.Group.Nat.Defs
import SqlSelect.Dialect.Backend
import SqlSelect.Proofs.Digits
import SqlSelect.Value.Literal

/-!
# `SqlSelect.Proofs.Literals.Chronology`: literals of dates and times in order

Some products compare dates as texts. The literals of a dialect can be compared so, byte by byte,
with the result that the dates and times themselves give: every number in a literal has leading zeros
up to a fixed width, the greater units stand in front of the smaller ones, and what stands between
the numbers and around them is the same for all literals of a kind.

* `SortsAs.append`, `SortsAs.same`: texts that are put together are compared part by part.
* `SortsAs.paddedNumber`: numbers of a fixed width.
* `SortsAs.dateLayout`, `SortsAs.timeLayout`: dates and times of day, whatever stands between their
  numbers.
* `SqlValue.compare_literals`: the literals of the built-in dialects.
-/

set_option autoImplicit false

namespace SqlSelect

open Number Text

/-! ### Bytes -/

namespace Text

/-- The bytes of a text in UTF-8. -/
def utf8Bytes (s : String) : List UInt8 :=
  s.toUTF8.data.toList

/-- The bytes of two texts stand one behind the other. -/
theorem utf8Bytes_append (s t : String) : utf8Bytes (s ++ t) = utf8Bytes s ++ utf8Bytes t := by
  simp [utf8Bytes, String.toUTF8, String.toByteArray_append, ByteArray.data_append]

/-- The bytes of a text are those of its characters. -/
theorem utf8Bytes_ofList (cs : List Char) :
    utf8Bytes (String.ofList cs) = cs.flatMap String.utf8EncodeChar := by
  rw [utf8Bytes, String.toUTF8, String.toByteArray_ofList, List.utf8Encode, List.data_toByteArray,
    List.toList_toArray]

/-- Different texts have different bytes. -/
theorem utf8Bytes_inj {s t : String} : utf8Bytes s = utf8Bytes t ↔ s = t := by
  rw [utf8Bytes, utf8Bytes, Array.toList_inj, ← ByteArray.ext_iff]
  exact String.toByteArray_inj

/-- A digit is one byte. -/
theorem utf8Bytes_digit_cons {c : Char} (hc : c.isDigit = true) (cs : List Char) :
    utf8Bytes (String.ofList (c :: cs)) = UInt8.ofNat c.toNat :: utf8Bytes (String.ofList cs) := by
  have hle : c.toNat ≤ 127 := Nat.le_trans (toNat_of_isDigit hc).2 (by decide)
  have hencode : String.utf8EncodeChar c = [UInt8.ofNat c.toNat] := by
    show (if c.toNat ≤ 127 then [UInt8.ofNat c.toNat] else _) = _
    rw [if_pos hle]
  rw [utf8Bytes_ofList, utf8Bytes_ofList, List.flatMap_cons, hencode, List.singleton_append]

/-- Where the first parts have one length, the second parts count if the first ones are equal. -/
theorem compare_append {xs ys us vs : List UInt8} (h : xs.length = ys.length) :
    compare (xs ++ us) (ys ++ vs) = (compare xs ys).then (compare us vs) := by
  induction xs generalizing ys with
  | nil =>
    rw [List.length_nil] at h
    rw [List.eq_nil_of_length_eq_zero h.symm]
    rfl
  | cons x xs ih =>
    obtain ⟨y, ys, rfl⟩ := List.exists_cons_of_length_eq_add_one h.symm
    have hlength : xs.length = ys.length := by simpa using h
    rw [List.cons_append, List.cons_append, List.compare_cons_cons, List.compare_cons_cons,
      ih hlength, Ordering.then_assoc]

end Text

/-! ### Digits -/

namespace Number

/-- The last digit counts if the numbers in front of it are equal. -/
theorem compare_ten_mul_add (a b : Nat) {i j : Nat} (hi : i < 10) (hj : j < 10) :
    compare (10 * a + i) (10 * b + j) = (compare a b).then (compare i j) := by
  rcases Nat.lt_trichotomy a b with hlt | rfl | hgt
  · rw [Nat.compare_eq_lt.mpr hlt, Nat.compare_eq_lt.mpr (by omega)]
    rfl
  · rw [Nat.compare_eq_eq.mpr rfl, Ordering.eq_then]
    rcases Nat.lt_trichotomy i j with hlt | rfl | hgt
    · rw [Nat.compare_eq_lt.mpr hlt, Nat.compare_eq_lt.mpr (by omega)]
    · rw [Nat.compare_eq_eq.mpr rfl, Nat.compare_eq_eq.mpr rfl]
    · rw [Nat.compare_eq_gt.mpr hgt, Nat.compare_eq_gt.mpr (by omega)]
  · rw [Nat.compare_eq_gt.mpr hgt, Nat.compare_eq_gt.mpr (by omega)]
    rfl

/-- The bytes of digits are in the order of their values. -/
theorem compare_digit_bytes {c d : Char} (hc : c.isDigit = true) (hd : d.isDigit = true) :
    compare (UInt8.ofNat c.toNat) (UInt8.ofNat d.toNat)
      = compare (digitValue c) (digitValue d) := by
  have hcbounds := toNat_of_isDigit hc
  have hdbounds := toNat_of_isDigit hd
  have hbyte : ∀ n, n ≤ 57 → (UInt8.ofNat n).toNat = n := by
    intro n hn
    rw [UInt8.toNat_ofNat']
    omega
  have hzero : '0'.toNat = 48 := rfl
  -- Bytes and values both grow with the code of the character.
  rcases Nat.lt_trichotomy c.toNat d.toNat with hlt | heq | hgt
  · have hbytes : UInt8.ofNat c.toNat < UInt8.ofNat d.toNat := by
      rwa [UInt8.lt_iff_toNat_lt, hbyte _ hcbounds.2, hbyte _ hdbounds.2]
    have hvalues : digitValue c < digitValue d := by
      unfold digitValue
      omega
    rw [Std.compare_eq_lt.mpr hbytes, Nat.compare_eq_lt.mpr hvalues]
  · rw [digitValue, digitValue, heq, Nat.compare_eq_eq.mpr rfl, Std.compare_self]
  · have hbytes : UInt8.ofNat d.toNat < UInt8.ofNat c.toNat := by
      rwa [UInt8.lt_iff_toNat_lt, hbyte _ hcbounds.2, hbyte _ hdbounds.2]
    have hvalues : digitValue d < digitValue c := by
      unfold digitValue
      omega
    rw [Std.compare_eq_gt.mpr hbytes, Nat.compare_eq_gt.mpr hvalues]

/-- Digits are compared as the numbers they spell, when there are as many of them. The numbers spelled
so far count first. -/
theorem compare_foldl_digits {cs ds : List Char} (hcs : ∀ c ∈ cs, c.isDigit = true)
    (hds : ∀ d ∈ ds, d.isDigit = true) (hlength : cs.length = ds.length) (a b : Nat) :
    compare (cs.foldl (fun n c => 10 * n + digitValue c) a)
        (ds.foldl (fun n c => 10 * n + digitValue c) b)
      = (compare a b).then (compare (utf8Bytes (String.ofList cs)) (utf8Bytes (String.ofList ds))) := by
  -- Each digit moves from the texts to the numbers in front, which are any two numbers here.
  induction cs generalizing ds a b with
  | nil =>
    rw [List.length_nil] at hlength
    rw [List.eq_nil_of_length_eq_zero hlength.symm, Std.compare_self, Ordering.then_eq]
    rfl
  | cons c cs ih =>
    obtain ⟨d, ds, rfl⟩ := List.exists_cons_of_length_eq_add_one hlength.symm
    rw [List.forall_mem_cons] at hcs hds
    have hrest : cs.length = ds.length := by simpa using hlength
    have hvalue : ∀ x : Char, x.isDigit = true → digitValue x < 10 := by
      intro x hx
      have hbounds := toNat_of_isDigit hx
      show x.toNat - 48 < 10
      omega
    rw [List.foldl_cons, List.foldl_cons, ih hcs.2 hds.2 hrest,
      compare_ten_mul_add a b (hvalue c hcs.1) (hvalue d hds.1), utf8Bytes_digit_cons hcs.1,
      utf8Bytes_digit_cons hds.1, List.compare_cons_cons, compare_digit_bytes hcs.1 hds.1,
      Ordering.then_assoc]

end Number

/-! ### Texts that sort -/

/-- Whether two texts of one length compare, byte by byte, with a given result. -/
structure SortsAs (s t : String) (order : Ordering) : Prop where
  length_eq : (utf8Bytes s).length = (utf8Bytes t).length
  compare_eq : compare (utf8Bytes s) (utf8Bytes t) = order

namespace SortsAs

variable {s t s' t' : String} {order order' : Ordering}

/-- What is the same in all literals of a kind decides nothing. -/
theorem same (s : String) : SortsAs s s .eq where
  length_eq := rfl
  compare_eq := Std.compare_self

/-- Two texts that sort as their values, with two more behind them: those behind decide where the
first ones are equal. The first ones must have one length, as a comparison of bytes would run on
otherwise. -/
theorem append (h : SortsAs s t order) (h' : SortsAs s' t' order') :
    SortsAs (s ++ s') (t ++ t') (order.then order') where
  length_eq := by
    rw [utf8Bytes_append, utf8Bytes_append, List.length_append, List.length_append, h.length_eq,
      h'.length_eq]
  compare_eq := by
    rw [utf8Bytes_append, utf8Bytes_append, compare_append h.length_eq, h.compare_eq, h'.compare_eq]

/-- A text of one form before and after does not count. -/
theorem within (before after : String) (h : SortsAs s t order) :
    SortsAs (before ++ s ++ after) (before ++ t ++ after) order := by
  have hall := ((same before).append h).append (same after)
  rwa [Ordering.eq_then, Ordering.then_eq] at hall

/-- Only equal values have equal texts. -/
theorem eq_iff (h : SortsAs s t order) : s = t ↔ order = .eq := by
  rw [← h.compare_eq, Std.compare_eq_iff_eq, utf8Bytes_inj]

/-! ### Numbers of a fixed width -/

/-- The digits of a number of a fixed width, and the number that they spell. -/
theorem exists_digits_of_paddedNumber {width n : Nat} (hwidth : 0 < width) (hn : n < 10 ^ width) :
    ∃ cs : List Char, SqlSelect.paddedNumber width n = String.ofList cs ∧
      (∀ c ∈ cs, c.isDigit = true) ∧ cs.length = width ∧ digitsValue cs = n := by
  have hle : (digits n).length ≤ width :=
    (Nat.length_toDigits_le_iff (by decide) hwidth).mpr hn
  refine ⟨List.replicate (width - (digits n).length) '0' ++ digits n, ?_, ?_, ?_, ?_⟩
  · rw [SqlSelect.paddedNumber, padStart, String.length_ofList, String.ofList_append]
  · intro c hc
    rcases List.mem_append.mp hc with hzero | hdigit
    · rw [List.eq_of_mem_replicate hzero]
      decide
    · exact isDigit_of_mem_digits hdigit
  · rw [List.length_append, List.length_replicate]
    omega
  · -- Leading zeros leave the number as it is.
    have hzeros : ∀ k, (List.replicate k '0').foldl (fun n c => 10 * n + digitValue c) 0 = 0 := by
      intro k
      induction k with
      | zero => rfl
      | succ k ih => exact ih
    rw [digitsValue, List.foldl_append, hzeros]
    exact digitsValue_digits n

/-- Numbers of one width sort as texts in their own order. Without leading zeros `10` would come
before `9`. -/
theorem paddedNumber {width m n : Nat} (hwidth : 0 < width) (hm : m < 10 ^ width)
    (hn : n < 10 ^ width) :
    SortsAs (SqlSelect.paddedNumber width m) (SqlSelect.paddedNumber width n) (compare m n) := by
  obtain ⟨cs, hcs, hcsdigits, hcslength, rfl⟩ := exists_digits_of_paddedNumber hwidth hm
  obtain ⟨ds, hds, hdsdigits, hdslength, rfl⟩ := exists_digits_of_paddedNumber hwidth hn
  -- Every digit is one byte, so numbers of one width have equally many bytes.
  have hbytes : ∀ cs : List Char, (∀ c ∈ cs, c.isDigit = true) →
      (utf8Bytes (String.ofList cs)).length = cs.length := by
    intro cs hcs
    induction cs with
    | nil => rfl
    | cons c cs ih =>
      rw [List.forall_mem_cons] at hcs
      rw [utf8Bytes_digit_cons hcs.1, List.length_cons, List.length_cons, ih hcs.2]
  have hcompare := compare_foldl_digits hcsdigits hdsdigits (hcslength.trans hdslength.symm) 0 0
  rw [hcs, hds]
  constructor
  · rw [hbytes cs hcsdigits, hbytes ds hdsdigits, hcslength, hdslength]
  · rw [digitsValue, digitsValue, hcompare, Std.compare_self, Ordering.eq_then]

end SortsAs

/-! ### Dates and times of day -/

/-- Whether the year of a date is written with four digits and no sign. -/
def Date.HasPlainYear (d : Date) : Prop :=
  0 ≤ d.year ∧ d.year ≤ 9999

/-- The units of a date, the greatest one first. -/
def Date.units (d : Date) : List Int :=
  [d.year, d.month, d.day]

/-- The units of a time of day down to the second as it is written, the greatest one first. -/
def Time.units (t : Time) : List Int :=
  [t.hour, t.minute, t.writtenSecond]

/-- The units of a date with a time of day. -/
def DateTime.units (dt : DateTime) : List Int :=
  dt.date.units ++ dt.time.units

/-- Natural numbers compare alike as integers. -/
theorem compare_natCast (m n : Nat) : compare (m : Int) (n : Int) = compare m n := by
  rcases Nat.lt_trichotomy m n with hlt | rfl | hgt
  · rw [Nat.compare_eq_lt.mpr hlt, Std.compare_eq_lt.mpr (Int.ofNat_lt.mpr hlt)]
  · rw [Std.compare_self, Std.compare_self]
  · rw [Nat.compare_eq_gt.mpr hgt, Std.compare_eq_gt.mpr (Int.ofNat_lt.mpr hgt)]

/-- The units of dates are compared one after the other, the year first. -/
theorem Date.compare_units (d e : Date) :
    compare d.units e.units
      = (compare d.year e.year).then ((compare d.month e.month).then (compare d.day e.day)) := by
  simp [Date.units, List.compare_cons_cons, compare_natCast]

/-- The units of a time of day are compared from the hour down, and the second is the written one.
-/
theorem Time.compare_units (t u : Time) :
    compare t.units u.units
      = (compare t.hour u.hour).then ((compare t.minute u.minute).then
          (compare t.writtenSecond u.writtenSecond)) := by
  simp [Time.units, List.compare_cons_cons, compare_natCast]

/-- The date decides before the time of day does. -/
theorem DateTime.compare_units (x y : DateTime) :
    compare x.units y.units
      = (compare x.date.units y.date.units).then (compare x.time.units y.time.units) := by
  rw [Date.compare_units, Time.compare_units]
  simp [DateTime.units, Date.units, Time.units, List.compare_cons_cons, compare_natCast,
    Ordering.then_assoc]

/-- A date is given by its units. -/
theorem Date.units_inj {d e : Date} : d.units = e.units ↔ d = e := by
  constructor
  · intro h
    obtain ⟨_, _, _, _, _, _⟩ := d
    obtain ⟨_, _, _, _, _, _⟩ := e
    simp only [units, List.cons.injEq, Int.natCast_inj, and_true] at h
    obtain ⟨rfl, rfl, rfl⟩ := h
    rfl
  · rintro rfl
    rfl

/-- No month has more days than two digits can show. -/
theorem daysInMonth_le (year : Int) (month : Nat) : daysInMonth year month ≤ 31 := by
  rw [daysInMonth]
  split
  · split <;> decide
  · split <;> decide

namespace SortsAs

/-- Dates with four-digit years sort in time, whatever stands between their numbers. -/
theorem dateLayout {d e : Date} (hd : d.HasPlainYear) (he : e.HasPlainYear) (separator : String) :
    SortsAs (d.layout separator) (e.layout separator) (compare d.units e.units) := by
  have hyearText : ∀ {f : Date}, f.HasPlainYear →
      Date.yearText f.year = SqlSelect.paddedNumber 4 f.year.toNat :=
    fun hf => if_pos hf
  have hlt : ∀ {f : Date}, f.HasPlainYear → f.year.toNat < 10 ^ 4 := by
    intro f hf
    have := hf.2
    omega
  have hday : ∀ f : Date, f.day < 10 ^ 2 := fun f => by
    have hlast := daysInMonth_le f.year f.month
    have := f.day_mem.2
    omega
  have hmonth : ∀ f : Date, f.month < 10 ^ 2 := fun f => by
    have := f.month_mem.2
    omega
  have hyears : compare d.year e.year = compare d.year.toNat e.year.toNat := by
    rw [← compare_natCast, Int.toNat_of_nonneg hd.1, Int.toNat_of_nonneg he.1]
  have hsame := same separator
  rw [Date.compare_units, hyears, Date.layout, Date.layout, hyearText hd, hyearText he]
  -- The year decides before the month, and the month before the day.
  have hall := ((((paddedNumber (by decide) (hlt hd) (hlt he)).append hsame).append
    (paddedNumber (by decide) (hmonth d) (hmonth e))).append hsame).append
    (paddedNumber (by decide) (hday d) (hday e))
  simpa [Ordering.then_assoc] using hall

/-- Times of day sort in time, up to the fraction that is not written. -/
theorem timeLayout (t u : Time) (separator : String) :
    SortsAs (t.layout separator) (u.layout separator) (compare t.units u.units) := by
  have hhour : ∀ v : Time, v.hour < 10 ^ 2 := fun v => by
    have := v.hour_lt
    omega
  have hminute : ∀ v : Time, v.minute < 10 ^ 2 := fun v => by
    have := v.minute_lt
    omega
  -- A leap second is written as the sixtieth, which still has two digits.
  have hsecond : ∀ v : Time, v.writtenSecond < 10 ^ 2 := fun v => by
    have hlt := v.second_lt
    have hnano : v.nano < 2000000000 := by
      have := v.nano_lt
      omega
    unfold Time.writtenSecond
    omega
  have hsame := same separator
  have hall := ((((paddedNumber (by decide) (hhour t) (hhour u)).append hsame).append
    (paddedNumber (by decide) (hminute t) (hminute u))).append hsame).append
    (paddedNumber (by decide) (hsecond t) (hsecond u))
  rw [Time.compare_units, Time.layout, Time.layout]
  simpa [Ordering.then_assoc] using hall

/-- Dates with times of day sort in time, whatever stands between the parts. -/
theorem dateTimeLayout {x y : DateTime} (hx : x.date.HasPlainYear) (hy : y.date.HasPlainYear)
    (dateSeparator joint timeSeparator : String) :
    SortsAs (x.date.layout dateSeparator ++ joint ++ x.time.layout timeSeparator)
      (y.date.layout dateSeparator ++ joint ++ y.time.layout timeSeparator)
      (compare x.units y.units) := by
  have hall := ((dateLayout hx hy dateSeparator).append (same joint)).append
    (timeLayout x.time y.time timeSeparator)
  rwa [Ordering.then_eq, ← DateTime.compare_units] at hall

end SortsAs

/-! ### The built-in dialects -/

namespace Backend

/-- All literals of dates have the same text before and behind the date. -/
theorem exists_dateLiteral (b : Backend) :
    ∃ before after, ∀ d, b.dialect.dateLiteral d = before ++ d.layout "-" ++ after := by
  cases b with
  | postgres =>
    exact ⟨"DATE '", "'", fun d => String.toList_injective (by
      simp [dialect, postgresDialect, singleQuoted, Date.text])⟩
  | oracle =>
    exact ⟨"TO_DATE('", "', 'YYYY-MM-DD')", fun d => String.toList_injective (by
      simp [dialect, oracleDialect, singleQuoted, Date.text])⟩
  | _ => exact ⟨"'", "'", fun d => rfl⟩

/-- No built-in dialect writes times of day in a way of its own. -/
theorem timeLiteral_eq (b : Backend) (t : Time) :
    b.dialect.timeLiteral t = "'" ++ t.layout ":" ++ "'" := by
  cases b <;> rfl

/-- Every built-in dialect writes dates with times of day in one layout, with texts around it that
are the same for all of them. -/
theorem exists_dateTimeLiteral (b : Backend) :
    ∃ before dateSeparator joint timeSeparator after, ∀ dt, b.dialect.dateTimeLiteral dt
      = before ++ (dt.date.layout dateSeparator ++ joint ++ dt.time.layout timeSeparator)
        ++ after := by
  cases b with
  | postgres =>
    exact ⟨"TIMESTAMP '", "-", " ", ":", "'", fun dt => String.toList_injective (by
      simp [dialect, postgresDialect, singleQuoted, dateAndTime, Date.text])⟩
  | oracle =>
    exact ⟨"TO_DATE('", "-", " ", ":", "', 'YYYY-MM-DD HH24:MI:SS')",
      fun dt => String.toList_injective (by
        simp [dialect, oracleDialect, singleQuoted, dateAndTime, Date.text])⟩
  | mySql =>
    exact ⟨"'", "", "", "", "'", fun dt => by simp [dialect, mySqlDialect, singleQuoted]⟩
  | msSql => exact ⟨"'", "-", "T", ":", "'", fun dt => rfl⟩
  | _ => exact ⟨"'", "-", " ", ":", "'", fun dt => rfl⟩

end Backend

namespace SqlValue

/-- The literals of two dates, of two dates with a time of day and of two times of day compare, byte
by byte, as their units do from the year or the hour down to the second, where the years have four
digits. They are the same text exactly if these units are the same. -/
theorem compare_literals (b : Backend) :
    (∀ d e : Date, d.HasPlainYear → e.HasPlainYear →
      compare (utf8Bytes ((date d).literal b.dialect)) (utf8Bytes ((date e).literal b.dialect))
          = compare d.units e.units ∧
        ((date d).literal b.dialect = (date e).literal b.dialect ↔ d = e)) ∧
      (∀ x y : DateTime, x.date.HasPlainYear → y.date.HasPlainYear →
        compare (utf8Bytes ((dateTime x).literal b.dialect)) (utf8Bytes ((dateTime y).literal b.dialect))
            = compare x.units y.units ∧
          ((dateTime x).literal b.dialect = (dateTime y).literal b.dialect
            ↔ x.units = y.units)) ∧
      ∀ t u : Time,
        compare (utf8Bytes ((time t).literal b.dialect)) (utf8Bytes ((time u).literal b.dialect))
            = compare t.units u.units ∧
          ((time t).literal b.dialect = (time u).literal b.dialect ↔ t.units = u.units) := by
  refine ⟨?_, ?_, ?_⟩
  · intro d e hd he
    -- What stands around the dates is the same in both literals.
    obtain ⟨before, after, hliteral⟩ := b.exists_dateLiteral
    have hsorts := (SortsAs.dateLayout hd he "-").within before after
    rw [literal, literal, hliteral, hliteral]
    exact ⟨hsorts.compare_eq, hsorts.eq_iff.trans
      (Std.compare_eq_iff_eq.trans Date.units_inj)⟩
  · intro x y hx hy
    obtain ⟨before, dateSeparator, joint, timeSeparator, after, hliteral⟩ :=
      b.exists_dateTimeLiteral
    have hsorts :=
      (SortsAs.dateTimeLayout hx hy dateSeparator joint timeSeparator).within before after
    rw [literal, literal, hliteral, hliteral]
    exact ⟨hsorts.compare_eq, hsorts.eq_iff.trans Std.compare_eq_iff_eq⟩
  · intro t u
    have hsorts := (SortsAs.timeLayout t u ":").within "'" "'"
    rw [literal, literal, b.timeLiteral_eq, b.timeLiteral_eq]
    exact ⟨hsorts.compare_eq, hsorts.eq_iff.trans Std.compare_eq_iff_eq⟩

/-- A leap second at the end of a year stands in front of the first second of the next one. -/
theorem compare_literals_leapSecond :
    ∃ x y : DateTime, x.date.HasPlainYear ∧ y.date.HasPlainYear ∧
      (dateTime x).literal Backend.mySql.dialect = "'20161231235960'" ∧
      (dateTime y).literal Backend.mySql.dialect = "'20170101000000'" ∧
      compare (utf8Bytes "'20161231235960'") (utf8Bytes "'20170101000000'") = .lt := by
  obtain ⟨x, hx, hxliteral, hxunits⟩ : ∃ x : DateTime, x.date.HasPlainYear ∧
      (dateTime x).literal Backend.mySql.dialect = "'20161231235960'" ∧
      x.units = [2016, 12, 31, 23, 59, 60] :=
    ⟨⟨⟨2016, 12, 31, by decide, by decide, by decide⟩,
      ⟨23, 59, 59, 1000000000, by decide, by decide, by decide, by decide⟩⟩,
      ⟨by decide, by decide⟩, by decide +kernel, rfl⟩
  obtain ⟨y, hy, hyliteral, hyunits⟩ : ∃ y : DateTime, y.date.HasPlainYear ∧
      (dateTime y).literal Backend.mySql.dialect = "'20170101000000'" ∧
      y.units = [2017, 1, 1, 0, 0, 0] :=
    ⟨⟨⟨2017, 1, 1, by decide, by decide, by decide⟩,
      ⟨0, 0, 0, 0, by decide, by decide, by decide, by decide⟩⟩,
      ⟨by decide, by decide⟩, by decide +kernel, rfl⟩
  have hcompare := ((compare_literals .mySql).2.1 x y hx hy).1
  rw [hxliteral, hyliteral, hxunits, hyunits] at hcompare
  exact ⟨x, y, hx, hy, hxliteral, hyliteral, hcompare.trans (by decide)⟩

end SqlValue

end SqlSelect
