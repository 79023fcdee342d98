import SqlSelect.Dialect.Backend

/-!
# `SqlSelect.Proofs.Literals.Reader`: how a product reads quoted text

A product reads a statement from left to right. At an opening quote it starts to read a quoted
text, which ends at the first closing quote that does not stand for itself. `Quoting` holds the
rules for that: a closing quote written twice stands for one, and there may be a character behind
which any other one is taken as it is. Nothing here looks at how a text was written.

* `Quoting.read?_double`: a text with every special character written twice is read as that text,
  and reading goes on right behind its closing quote.
* `Quoting.spells_of_read?`: what has been read, by the inductive relation `Quoting.Spells`.
* `Quoting.isPlain_of_read?`: a text between quotes, with nothing written twice, is read as itself
  only if none of its characters is special.
* `Quoting.tokens?`: the reading of a whole statement, as code and quoted texts.
* `Quoting.ReadsAs`: how a part of a statement is read wherever it stands.
-/

set_option autoImplicit false

namespace SqlSelect

/-- The rules of quoted text: the quote that closes it, and the character that takes the meaning
from the one behind it, if there is one. -/
structure Quoting where
  close : Char
  escape : Option Char
  escape_ne : escape ≠ some close

namespace Quoting

variable {r : Quoting}

/-- Whether a character does not stand for itself in quoted text. -/
def IsSpecial (r : Quoting) (c : Char) : Prop :=
  c = r.close ∨ some c = r.escape

instance (r : Quoting) : DecidablePred r.IsSpecial :=
  fun _ => inferInstanceAs (Decidable (_ ∨ _))

/-- The closing quote is special in every product. -/
theorem isSpecial_close (r : Quoting) : r.IsSpecial r.close := .inl rfl

/-- Whether every character of a text stands for itself. -/
def IsPlain (r : Quoting) (cs : List Char) : Prop :=
  ∀ c ∈ cs, ¬ r.IsSpecial c

/-- A text with every special character written twice. -/
def double (r : Quoting) (cs : List Char) : List Char :=
  cs.flatMap fun c => if r.IsSpecial c then [c, c] else [c]

/-- A plain text has nothing to be written twice. -/
theorem double_of_isPlain {cs : List Char} (h : r.IsPlain cs) : r.double cs = cs := by
  induction cs with
  | nil => rfl
  | cons c cs ih =>
    have hc := h c List.mem_cons_self
    have hcs := ih fun d hd => h d (List.mem_cons_of_mem _ hd)
    unfold double at hcs ⊢
    rw [List.flatMap_cons, hcs, if_neg hc]
    rfl

/-- Reads a quoted text from behind its opening quote: the text, and what stands behind its closing
quote. -/
def read? (r : Quoting) : List Char → Option (List Char × List Char)
  | [] => none
  | [c] => if c = r.close then some ([], []) else none
  | c :: d :: rest =>
    if some c = r.escape then (r.read? rest).map (Prod.map (d :: ·) id)
    else if c = r.close then
      if d = r.close then (r.read? rest).map (Prod.map (d :: ·) id) else some ([], d :: rest)
    else (r.read? (d :: rest)).map (Prod.map (c :: ·) id)

/-! ### One character -/

/-- A character that is not special is read as itself. -/
theorem read?_plain {c : Char} (h : ¬ r.IsSpecial c) (rest : List Char) :
    r.read? (c :: rest) = (r.read? rest).map (Prod.map (c :: ·) id) := by
  obtain ⟨hclose, hescape⟩ := not_or.mp h
  cases rest with
  | nil =>
    have hlast : r.read? [c] = none := by rw [read?, if_neg hclose]
    rw [hlast]
    rfl
  | cons d rest => rw [read?, if_neg hescape, if_neg hclose]

/-- A special character that is written twice stands for itself, whichever of the two it is. -/
theorem read?_twice {c : Char} (h : r.IsSpecial c) (rest : List Char) :
    r.read? (c :: c :: rest) = (r.read? rest).map (Prod.map (c :: ·) id) := by
  rw [read?]
  by_cases hescape : some c = r.escape
  · rw [if_pos hescape]
  · have hclose : c = r.close := h.resolve_right hescape
    rw [if_neg hescape, if_pos hclose, if_pos hclose]

/-- A quote that is not written twice ends the text. -/
theorem read?_close {rest : List Char} (h : rest.head? ≠ some r.close) :
    r.read? (r.close :: rest) = some ([], rest) := by
  cases rest with
  | nil => rw [read?, if_pos rfl]
  | cons d rest =>
    have hd : d ≠ r.close := fun hd => h (congrArg some hd)
    rw [read?, if_neg (Ne.symm r.escape_ne), if_pos rfl, if_neg hd]

/-! ### What is written is read -/

/-- A text is read back, whatever it holds. The induction is on the text; a special character takes
two steps of the reader and any other one takes one. -/
theorem read?_double (s : List Char) {rest : List Char} (h : rest.head? ≠ some r.close) :
    r.read? (r.double s ++ r.close :: rest) = some (s, rest) := by
  induction s with
  | nil => exact read?_close h
  | cons c s ih =>
    by_cases hc : r.IsSpecial c
    · have hwritten : r.double (c :: s) ++ r.close :: rest
          = c :: c :: (r.double s ++ r.close :: rest) := by simp [double, hc]
      rw [hwritten, read?_twice hc, ih]
      rfl
    · have hwritten : r.double (c :: s) ++ r.close :: rest
          = c :: (r.double s ++ r.close :: rest) := by simp [double, hc]
      rw [hwritten, read?_plain hc, ih]
      rfl

/-! ### What is read was written -/

/-- How a text can be written between quotes. -/
inductive Spells (r : Quoting) : List Char → List Char → Prop
  | nil : Spells r [] []
  | plain {c : Char} {written s : List Char} (hc : ¬ r.IsSpecial c) (h : Spells r written s) :
      Spells r (c :: written) (c :: s)
  | twice {written s : List Char} (h : Spells r written s) :
      Spells r (r.close :: r.close :: written) (r.close :: s)
  | escaped {e : Char} (he : some e = r.escape) (c : Char) {written s : List Char}
      (h : Spells r written s) : Spells r (e :: c :: written) (c :: s)

/-- The reader finds a written form of the text it returns, and the quote that ends it. -/
theorem spells_of_read? {cs s rest : List Char} (h : r.read? cs = some (s, rest)) :
    ∃ written, cs = written ++ r.close :: rest ∧ r.Spells written s := by
  fun_induction read? r cs generalizing s with
  | case1 => cases h
  | case2 =>
    -- The last character is the quote.
    cases h
    exact ⟨[], rfl, .nil⟩
  | case3 => cases h
  | case4 c d tail hescape ih =>
    -- The escape comes before the quote, which it may stand in front of.
    obtain ⟨⟨s, rest'⟩, htail, hs⟩ := Option.map_eq_some_iff.mp h
    cases hs
    obtain ⟨written, rfl, hspells⟩ := ih htail
    exact ⟨c :: d :: written, rfl, .escaped hescape d hspells⟩
  | case5 tail _ ih =>
    -- A quote that is written twice goes on.
    obtain ⟨⟨s, rest'⟩, htail, hs⟩ := Option.map_eq_some_iff.mp h
    cases hs
    obtain ⟨written, rfl, hspells⟩ := ih htail
    exact ⟨r.close :: r.close :: written, rfl, .twice hspells⟩
  | case6 =>
    -- Any other quote ends the text.
    cases h
    exact ⟨[], rfl, .nil⟩
  | case7 c d tail hescape hclose ih =>
    obtain ⟨⟨s, rest'⟩, htail, hs⟩ := Option.map_eq_some_iff.mp h
    cases hs
    obtain ⟨written, hwritten, hspells⟩ := ih htail
    refine ⟨c :: written, by rw [hwritten]; rfl, .plain ?_ hspells⟩
    exact not_or.mpr ⟨hclose, hescape⟩

namespace Spells

variable {written s : List Char}

/-- What is read is never longer than what was written. -/
theorem length_le (h : r.Spells written s) : s.length ≤ written.length := by
  induction h with
  | nil => exact Nat.le_refl 0
  | plain _ _ ih => exact Nat.succ_le_succ ih
  | twice _ ih => exact Nat.succ_le_succ (Nat.le_succ_of_le ih)
  | escaped _ _ _ ih => exact Nat.succ_le_succ (Nat.le_succ_of_le ih)

/-- A written form that is not longer than its text has no special character in it. -/
theorem isPlain_of_length_le (h : r.Spells written s) (hle : written.length ≤ s.length) :
    r.IsPlain written := by
  induction h with
  | nil => exact fun c hc => absurd hc List.not_mem_nil
  | plain hc _ ih =>
    have hrest := ih (Nat.le_of_succ_le_succ hle)
    intro d hd
    rcases List.mem_cons.mp hd with rfl | hd
    · exact hc
    · exact hrest d hd
  | twice h _ =>
    -- What is written twice or escaped is longer than what it spells.
    have := h.length_le
    simp only [List.length_cons] at hle
    omega
  | escaped _ _ h _ =>
    have := h.length_le
    simp only [List.length_cons] at hle
    omega

/-- An escape adds special characters only. -/
theorem countP_eq (h : r.Spells written s) :
    written.countP (!r.IsSpecial ·) = s.countP (!r.IsSpecial ·) := by
  induction h with
  | nil => rfl
  | plain hc _ ih => simp [hc, ih]
  | twice _ ih => simp [r.isSpecial_close, ih]
  | escaped he c _ ih =>
    have he' : r.IsSpecial _ := .inr he
    simp [he', List.countP_cons, ih]

end Spells

/-- A text between quotes that is read as itself is plain, unless a special character follows its
quote. -/
theorem isPlain_of_read? {s rest rest' : List Char}
    (h : r.read? (s ++ r.close :: rest) = some (s, rest'))
    (hrest : ∀ c ∈ rest.head?, ¬ r.IsSpecial c) : r.IsPlain s := by
  obtain ⟨written, heq, hspells⟩ := spells_of_read? h
  rcases List.append_eq_append_iff.mp heq with ⟨more, hwritten, hmore⟩ | ⟨more, hs, -⟩
  · cases more with
    | nil =>
      rw [List.append_nil] at hwritten
      subst hwritten
      exact hspells.isPlain_of_length_le (Nat.le_refl _)
    | cons c more =>
      -- The quote behind `s` is read as a part of the text, and so is `more`, which would have to
      -- be special throughout.
      obtain ⟨rfl, hrest'⟩ := List.cons.inj hmore
      have hcount := hspells.countP_eq
      rw [hwritten, List.countP_append, List.countP_cons] at hcount
      have hspecial : ∀ c ∈ more, r.IsSpecial c := by
        have hzero : more.countP (!r.IsSpecial ·) = 0 := by omega
        intro c hc
        simpa using List.countP_eq_zero.mp hzero c hc
      rw [hrest'] at hrest
      cases more with
      | nil => exact absurd r.isSpecial_close (hrest r.close rfl)
      | cons c more => exact absurd (hspecial c List.mem_cons_self) (hrest c rfl)
  · -- The text that was read ends within `s`, and it is `s`, so nothing was left out.
    have hle : written.length ≤ s.length := by
      rw [hs, List.length_append]
      omega
    have hlength := hspells.length_le
    have hplain := hspells.isPlain_of_length_le hle
    cases more with
    | nil =>
      rw [hs, List.append_nil]
      exact hplain
    | cons c more =>
      rw [hs, List.length_append, List.length_cons] at hlength
      omega

end Quoting

/-! ### Statements -/

/-- A piece of a statement as it is read: a character of the code, or a quoted text. -/
inductive Token where
  | code (c : Char)
  | quoted (s : String)
  deriving DecidableEq

/-- The characters of a text as code. -/
def Token.ofCode (s : String) : List Token :=
  s.toList.map code

namespace Quoting

variable {r : Quoting}

/-- What follows a quoted text is shorter than the text with its quote. -/
theorem length_lt_of_read? {cs s rest : List Char} (h : r.read? cs = some (s, rest)) :
    rest.length < cs.length := by
  obtain ⟨written, rfl, -⟩ := spells_of_read? h
  simp only [List.length_append, List.length_cons]
  omega

/-- The pieces of a statement, unless a quoted text in it does not end. -/
def tokens? (r : Quoting) : List Char → Option (List Token)
  | [] => some []
  | c :: cs =>
    if c = r.close then
      match _h : r.read? cs with
      | some (s, rest) => (r.tokens? rest).map (.quoted (String.ofList s) :: ·)
      | none => none
    else (r.tokens? cs).map (.code c :: ·)
termination_by cs => cs.length
decreasing_by
  · exact Nat.lt_succ_of_lt (length_lt_of_read? _h)
  · exact Nat.lt_succ_self _

/-- There is nothing to read in an empty statement. -/
theorem tokens?_nil (r : Quoting) : r.tokens? [] = some [] := by
  rw [tokens?]

/-- Code is read character by character. -/
theorem tokens?_code_append {cs : List Char} (h : ∀ c ∈ cs, c ≠ r.close) (rest : List Char) :
    r.tokens? (cs ++ rest) = (r.tokens? rest).map (cs.map .code ++ ·) := by
  induction cs with
  | nil => simp
  | cons c cs ih =>
    have hc := h c List.mem_cons_self
    have hcs := ih fun d hd => h d (List.mem_cons_of_mem _ hd)
    rw [List.cons_append, tokens?, if_neg hc, hcs, Option.map_map]
    rfl

/-- A quoted text is read as one token, and reading goes on behind it. -/
theorem tokens?_quote {cs s rest : List Char} (h : r.read? cs = some (s, rest)) :
    r.tokens? (r.close :: cs) = (r.tokens? rest).map (.quoted (String.ofList s) :: ·) := by
  rw [tokens?, if_pos rfl]
  split
  · rename_i hread
    rw [h] at hread
    cases hread
    rfl
  · rename_i hread
    rw [h] at hread
    cases hread

/-- What is read as the quoted text it holds has no special character in it. -/
theorem isPlain_of_tokens? {s : String} {rest : List Char} {ts : List Token}
    (h : r.tokens? (r.close :: (s.toList ++ r.close :: rest)) = some (.quoted s :: ts))
    (hrest : ∀ c ∈ rest.head?, ¬ r.IsSpecial c) : r.IsPlain s.toList := by
  rw [tokens?, if_pos rfl] at h
  split at h
  · rename_i s' rest' hread
    obtain ⟨us, -, hus⟩ := Option.map_eq_some_iff.mp h
    have hs : String.ofList s' = s := Token.quoted.inj (List.cons.inj hus).1
    rw [← hs, String.toList_ofList] at hread ⊢
    exact isPlain_of_read? hread hrest
  · cases h

/-- Whether a part of a statement is read as some pieces wherever it stands, and reading goes on
right behind it. A quote behind it would be taken for a part of it. -/
def ReadsAs (r : Quoting) (cs : List Char) (ts : List Token) : Prop :=
  ∀ rest : List Char, rest.head? ≠ some r.close →
    r.tokens? (cs ++ rest) = (r.tokens? rest).map (ts ++ ·)

namespace ReadsAs

variable {cs cs' : List Char} {ts ts' : List Token}

/-- Nothing is read as nothing. -/
theorem nil : r.ReadsAs [] [] := fun rest _ => by simp

/-- A part that is the whole statement is read as it is anywhere else. -/
theorem tokens?_eq (h : r.ReadsAs cs ts) : r.tokens? cs = some ts := by
  have hend := h [] (by simp)
  rw [List.append_nil, tokens?_nil] at hend
  simpa using hend

/-- Characters that open no quoted text are read as code, one by one. -/
theorem code (h : ∀ c ∈ cs, c ≠ r.close) : r.ReadsAs cs (cs.map .code) :=
  fun rest _ => tokens?_code_append h rest

/-- A text with its special characters written twice, between quotes, is one piece. -/
theorem quoted (s : List Char) :
    r.ReadsAs (r.close :: r.double s ++ [r.close]) [.quoted (String.ofList s)] := by
  intro rest hrest
  have hread := read?_double s hrest
  have hwritten : r.close :: r.double s ++ [r.close] ++ rest
      = r.close :: (r.double s ++ r.close :: rest) := by simp
  rw [hwritten, tokens?_quote hread]
  rfl

/-- Two parts one behind the other, unless the second one starts with a quote. -/
theorem append (h : r.ReadsAs cs ts) (h' : r.ReadsAs cs' ts') (hstart : cs'.head? ≠ some r.close) :
    r.ReadsAs (cs ++ cs') (ts ++ ts') := by
  intro rest hrest
  have hnext : (cs' ++ rest).head? ≠ some r.close := by
    cases cs' with
    | nil => exact hrest
    | cons c cs' => exact hstart
  rw [List.append_assoc, h _ hnext, h' rest hrest, Option.map_map]
  congr 1
  funext us
  exact (List.append_assoc ts ts' us).symm

/-- Behind code a quote may follow. -/
theorem code_append (h : ∀ c ∈ cs, c ≠ r.close) (h' : r.ReadsAs cs' ts') :
    r.ReadsAs (cs ++ cs') (cs.map .code ++ ts') := by
  intro rest hrest
  rw [List.append_assoc, tokens?_code_append h, h' rest hrest, Option.map_map]
  congr 1
  funext us
  exact (List.append_assoc _ ts' us).symm

end ReadsAs

end Quoting

end SqlSelect
