import SqlSelect.Dialect.Backend
import SqlSelect.Proofs.Literals.Figures
import SqlSelect.Proofs.Literals.Reader

/-!
# `SqlSelect.Proofs.Literals.Values`: literals as their product reads them

Every built-in product reads a text between single quotes, in which a quote is written twice; for
MySQL a backslash takes the meaning from the character behind it. `Backend.literalRules` holds
these rules, independently of the dialect that writes the literals.

* `Backend.escapeText_eq`: a dialect writes twice what its product reads in a special way.
* `Backend.readLiteral?_literal`: a text is read back from its literal, and the literal ends there.
* `SqlValue.tokens`: what a literal is read as.
* `SqlValue.readsAs_literal`: the literal of a value that can be bound is read as that, wherever it
  stands. A UUID is the one exception, as it is written without an escape.
-/

set_option autoImplicit false

namespace SqlSelect

open Number Text

/-- The characters of a text between single quotes. -/
theorem toList_singleQuoted (s : String) :
    (singleQuoted s).toList = '\'' :: s.toList ++ ['\''] := by
  simp [singleQuoted]

namespace Backend

variable {b : Backend}

/-- How a product reads a text between single quotes. -/
def literalRules : Backend → Quoting
  | mySql => ⟨'\'', some '\\', by decide⟩
  | _ => ⟨'\'', none, by decide⟩

/-- Every product closes a literal with a single quote. -/
@[simp] theorem close_literalRules (b : Backend) : b.literalRules.close = '\'' := by
  cases b <;> rfl

/-- Only a quote can be special in a literal, and for one product a backslash. -/
theorem eq_of_isSpecial {c : Char} (h : b.literalRules.IsSpecial c) : c = '\'' ∨ c = '\\' := by
  rcases h with h | h
  · exact .inl (h.trans b.close_literalRules)
  · right
    cases b <;> cases h
    rfl

/-- A figure stands for itself in every literal. -/
theorem not_isSpecial_of_isFigure {c : Char} (h : isFigure c = true) :
    ¬ b.literalRules.IsSpecial c := by
  intro hspecial
  rcases eq_of_isSpecial hspecial with rfl | rfl
  · exact absurd h (by decide)
  · exact absurd h (by decide)

/-- Numbers and dates need no escape in any product. -/
theorem isPlain_of_isFigures {cs : List Char} (h : IsFigures cs) : b.literalRules.IsPlain cs :=
  fun c hc => not_isSpecial_of_isFigure (h c hc)

/-- What a product reads in a special way its dialect writes twice. For MySQL that are two walks
over the text, and the second one leaves the backslashes of the first one alone. -/
theorem escapeText_eq (b : Backend) (s : String) :
    b.dialect.escapeText s = String.ofList (b.literalRules.double s.toList) := by
  cases b with
  | mySql =>
    show String.ofList (doubleChar '\'' (doubleChar '\\' s.toList)) = _
    congr 1
    unfold doubleChar
    rw [List.flatMap_assoc]
    unfold Quoting.double
    congr 1
    funext c
    -- Doubling one of the two characters does not touch the other one, so the order does not
    -- matter.
    by_cases hquote : c = '\''
    · simp [hquote, literalRules, Quoting.IsSpecial]
    · by_cases hescape : c = '\\' <;>
        simp [hquote, hescape, literalRules, Quoting.IsSpecial]
  | _ =>
    show String.ofList (doubleChar '\'' s.toList) = _
    simp [doubleChar, Quoting.double, literalRules, Quoting.IsSpecial]

/-! ### Texts -/

/-- Reads a literal: its text, and what stands behind its closing quote. -/
def readLiteral? (b : Backend) (literal : String) : Option (String × String) :=
  match literal.toList with
  | '\'' :: cs => (b.literalRules.read? cs).map (Prod.map String.ofList String.ofList)
  | _ => none

/-- An escaped text between quotes is read back, up to its last character. -/
theorem readLiteral?_escapeText (b : Backend) (s : String) :
    b.readLiteral? (singleQuoted (b.dialect.escapeText s)) = some (s, "") := by
  have hend : ([] : List Char).head? ≠ some b.literalRules.close := by simp
  have hread := Quoting.read?_double s.toList hend
  rw [close_literalRules] at hread
  rw [readLiteral?, toList_singleQuoted, escapeText_eq, String.toList_ofList]
  simp [hread]

/-- The literal of a text and that of a JSON value are read back whole, and nothing of them is left
behind the closing quote. So no two texts have one literal. -/
theorem readLiteral?_literal (b : Backend) :
    (∀ s : String, b.readLiteral? ((SqlValue.string s).literal b.dialect) = some (s, "")) ∧
      (∀ j : Json, b.readLiteral? ((SqlValue.json j).literal b.dialect) = some (j.print, "")) ∧
      Function.Injective fun s : String => (SqlValue.string s).literal b.dialect := by
  refine ⟨b.readLiteral?_escapeText, fun j => b.readLiteral?_escapeText j.print, ?_⟩
  intro s t hst
  have hboth : some (s, "") = some (t, "") := by
    rw [← b.readLiteral?_escapeText s, ← b.readLiteral?_escapeText t]
    exact congrArg b.readLiteral? hst
  cases hboth
  rfl

example : mySql.dialect.escapeText "\\' OR 1=1 --" = "\\\\'' OR 1=1 --" := by decide

/-! ### Literals in a statement -/

/-- Whether a text in a statement is read as some pieces wherever it stands. -/
def ReadsAs (b : Backend) (text : String) (ts : List Token) : Prop :=
  b.literalRules.ReadsAs text.toList ts

/-- A text without quotes closes no literal. -/
theorem ne_close_of_notMem {cs : List Char} (b : Backend) (h : '\'' ∉ cs) :
    ∀ c ∈ cs, c ≠ b.literalRules.close := by
  rintro c hc rfl
  exact h (b.close_literalRules ▸ hc)

/-- Text without a quote is code. -/
theorem readsAs_code {text : String} (h : '\'' ∉ text.toList) :
    b.ReadsAs text (Token.ofCode text) :=
  Quoting.ReadsAs.code (b.ne_close_of_notMem h)

/-- A number is read as code. -/
theorem readsAs_figures {text : String} (h : IsFigures text.toList) :
    b.ReadsAs text (Token.ofCode text) :=
  readsAs_code fun hquote => absurd (h _ hquote) (by decide)

/-- A text between quotes that is escaped is one piece. -/
theorem readsAs_escapeText (b : Backend) (s : String) :
    b.ReadsAs (singleQuoted (b.dialect.escapeText s)) [.quoted s] := by
  have hquoted := Quoting.ReadsAs.quoted (r := b.literalRules) s.toList
  rw [close_literalRules, String.ofList_toList] at hquoted
  unfold ReadsAs
  rwa [toList_singleQuoted, escapeText_eq, String.toList_ofList]

/-- So is a text that needs no escape. -/
theorem readsAs_singleQuoted {s : String} (h : b.literalRules.IsPlain s.toList) :
    b.ReadsAs (singleQuoted s) [.quoted s] := by
  have hescape : b.dialect.escapeText s = s := by
    rw [escapeText_eq, Quoting.double_of_isPlain h, String.ofList_toList]
  have hread := b.readsAs_escapeText s
  rwa [hescape] at hread

/-- Code, a text between quotes, and more that does not start with a quote. -/
theorem readsAs_around {before text behind : String} {ts us : List Token}
    (hbefore : '\'' ∉ before.toList) (htext : b.ReadsAs text ts) (hbehind : b.ReadsAs behind us)
    (hstart : behind.toList.head? ≠ some '\'') :
    b.ReadsAs (before ++ text ++ behind) (Token.ofCode before ++ (ts ++ us)) := by
  have hrest : b.literalRules.ReadsAs (text.toList ++ behind.toList) (ts ++ us) := by
    refine Quoting.ReadsAs.append htext hbehind ?_
    rwa [close_literalRules]
  unfold ReadsAs
  rw [String.toList_append, String.toList_append, List.append_assoc]
  exact hrest.code_append (b.ne_close_of_notMem hbefore)

/-! ### Dates -/

/-- The call by which Oracle makes a date of a text. -/
def toDateTokens (text format : String) : List Token :=
  Token.ofCode "TO_DATE(" ++
    .quoted text :: (Token.ofCode ", " ++ .quoted format :: Token.ofCode ")")

/-- The pieces of a date, its text among them. -/
def dateTokens (b : Backend) (d : Date) : List Token :=
  match b with
  | postgres => Token.ofCode "DATE " ++ [.quoted d.text]
  | oracle => toDateTokens d.text "YYYY-MM-DD"
  | _ => [.quoted d.text]

/-- The pieces of a date with a time of day. -/
def dateTimeTokens (b : Backend) (dt : DateTime) : List Token :=
  match b with
  | postgres => Token.ofCode "TIMESTAMP " ++ [.quoted (dateAndTime dt)]
  | mySql => [.quoted (dt.date.layout "" ++ dt.time.layout "")]
  | oracle => toDateTokens (dateAndTime dt) "YYYY-MM-DD HH24:MI:SS"
  | msSql => [.quoted (dt.date.text ++ "T" ++ dt.time.layout ":")]
  | _ => [.quoted (dateAndTime dt)]

/-- Figures between quotes, with code in front. -/
theorem readsAs_typed {before text : String} (hbefore : '\'' ∉ before.toList)
    (htext : IsFigures text.toList) :
    b.ReadsAs (before ++ singleQuoted text) (Token.ofCode before ++ [.quoted text]) := by
  have hread := readsAs_singleQuoted (b := b) (isPlain_of_isFigures htext)
  have hend : b.ReadsAs "" (Token.ofCode "") := readsAs_code (by decide)
  have haround := readsAs_around hbefore hread hend (by decide)
  rwa [String.append_empty] at haround

/-- The two texts between the parentheses of `TO_DATE` are read as two literals. -/
theorem readsAs_toDate {text format : String} (htext : IsFigures text.toList)
    (hformat : IsFigures format.toList) :
    b.ReadsAs ("TO_DATE(" ++ singleQuoted text ++ (", " ++ singleQuoted format ++ ")"))
      (toDateTokens text format) := by
  have hbehind : b.ReadsAs (", " ++ singleQuoted format ++ ")")
      (Token.ofCode ", " ++ .quoted format :: Token.ofCode ")") :=
    readsAs_around (by decide) (readsAs_singleQuoted (isPlain_of_isFigures hformat))
      (readsAs_code (by decide)) (by decide)
  refine readsAs_around (by decide) (readsAs_singleQuoted (isPlain_of_isFigures htext)) hbehind ?_
  rw [String.toList_append, String.toList_append]
  simp

/-- A date with its time of day is written with figures. -/
theorem isFigures_dateAndTime (dt : DateTime) : IsFigures (dateAndTime dt).toList :=
  ((IsFigures.dateLayout (by decide) dt.date).append_string (by decide)).append_string
    (IsFigures.timeLayout (by decide) dt.time)

/-- The literal of a date is read as the one text in it, with the dialect's code around it. -/
theorem readsAs_date (b : Backend) (d : Date) :
    b.ReadsAs (b.dialect.dateLiteral d) (b.dateTokens d) := by
  have htext : IsFigures d.text.toList := IsFigures.dateLayout (by decide) d
  cases b with
  | postgres => exact readsAs_typed (by decide) htext
  | oracle =>
    have hformat : ", 'YYYY-MM-DD')" = ", " ++ singleQuoted "YYYY-MM-DD" ++ ")" := by decide
    show oracle.ReadsAs ("TO_DATE(" ++ singleQuoted d.text ++ ", 'YYYY-MM-DD')") _
    rw [hformat]
    exact readsAs_toDate htext (by decide)
  | _ => exact readsAs_singleQuoted (isPlain_of_isFigures htext)

/-- The literal of a time of day is read as one text. -/
theorem readsAs_time (b : Backend) (t : Time) :
    b.ReadsAs (b.dialect.timeLiteral t) [.quoted (t.layout ":")] := by
  have hlayout : IsFigures (t.layout ":").toList := IsFigures.timeLayout (by decide) t
  have hread := readsAs_singleQuoted (b := b) (isPlain_of_isFigures hlayout)
  cases b <;> exact hread

/-- The same for dates with a time of day, which the dialects write in more ways than dates. -/
theorem readsAs_dateTime (b : Backend) (dt : DateTime) :
    b.ReadsAs (b.dialect.dateTimeLiteral dt) (b.dateTimeTokens dt) := by
  have hboth := isFigures_dateAndTime dt
  cases b with
  | postgres => exact readsAs_typed (by decide) hboth
  | mySql =>
    refine readsAs_singleQuoted (isPlain_of_isFigures ?_)
    exact (IsFigures.dateLayout (by decide) _).append_string (IsFigures.timeLayout (by decide) _)
  | oracle =>
    have hformat : ", 'YYYY-MM-DD HH24:MI:SS')"
        = ", " ++ singleQuoted "YYYY-MM-DD HH24:MI:SS" ++ ")" := by decide
    show oracle.ReadsAs ("TO_DATE(" ++ singleQuoted (dateAndTime dt) ++ _) _
    rw [hformat]
    exact readsAs_toDate hboth (by decide)
  | msSql =>
    refine readsAs_singleQuoted (isPlain_of_isFigures ?_)
    exact ((IsFigures.dateLayout (by decide) _).append_string (by decide)).append_string
      (IsFigures.timeLayout (by decide) _)
  | _ => exact readsAs_singleQuoted (isPlain_of_isFigures hboth)

end Backend

/-! ### Values -/

namespace SqlValue

/-- What the literal of a value is read as. Only the pieces between quotes hold what a user may
have written; any other value is a number or a word. -/
def tokens (b : Backend) : SqlValue → List Token
  | string s => [.quoted s]
  | uuid s => [.quoted s]
  | json j => [.quoted j.print]
  | bytes bs => Token.ofCode "X" ++ [.quoted (String.join (bs.map hexByte))]
  | date d => b.dateTokens d
  | time t => [.quoted (t.layout ":")]
  | dateTime dt => b.dateTimeTokens dt
  | v => Token.ofCode (v.literal b.dialect)

/-- A floating-point number is figures; one that is not finite is written as NULL, and this is
figures too. -/
theorem isFigures_binary {f : BinaryFormat} (x : Binary f) :
    IsFigures (if x.isFinite then x.plainText else "NULL").toList := by
  split
  · exact IsFigures.binaryText x
  · decide

/-- The literal of a value that can be bound is read as its pieces, and reading goes on behind it.
A UUID has to be free of special characters for that. -/
theorem readsAs_literal {b : Backend} {v : SqlValue} (hv : v.isBindable = true)
    (huuid : ∀ s, v = uuid s → b.literalRules.IsPlain s.toList) :
    b.ReadsAs (v.literal b.dialect) (v.tokens b) := by
  cases v with
  | null | array _ | verbatim _ => cases hv
  | string s =>
    rw [literal]
    exact b.readsAs_escapeText s
  | json j =>
    rw [literal]
    exact b.readsAs_escapeText j.print
  | uuid s =>
    rw [literal]
    exact Backend.readsAs_singleQuoted (huuid s rfl)
  | bytes bs =>
    rw [literal]
    exact Backend.readsAs_typed (by decide) (IsFigures.hexBytes bs)
  | date d =>
    rw [literal]
    exact b.readsAs_date d
  | time t =>
    rw [literal]
    exact b.readsAs_time t
  | dateTime dt =>
    rw [literal]
    exact b.readsAs_dateTime dt
  | bool x =>
    -- Truth values and numbers have no quote in them, so they are read as code.
    refine Backend.readsAs_figures ?_
    rw [literal]
    cases b <;> cases x <;> decide
  | smallInt n | int n | bigInt n =>
    refine Backend.readsAs_figures ?_
    rw [literal]
    exact IsFigures.intText _
  | float x | double x =>
    refine Backend.readsAs_figures ?_
    rw [literal]
    exact isFigures_binary x
  | decimal x =>
    refine Backend.readsAs_figures ?_
    rw [literal]
    exact IsFigures.fixedPointText x

end SqlValue

end SqlSelect
