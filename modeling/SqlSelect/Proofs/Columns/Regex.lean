/-!
# `SqlSelect.Proofs.Columns.Regex`: regular expressions on a text

A regular expression can match in many ways from one position. The match that counts is the first
one when an alternative on the left is tried before the one on the right, and one more repetition
before none. A text is searched from left to right for matches that do not overlap.

* `Regex.ends`: where the matches from a position end, in the order in which they are tried.
* `Regex.pieces`: a text cut up into matches and the characters between them.
* `Regex.ends_star_char`: how a repeated character matches.
-/

set_option autoImplicit false

namespace SqlSelect

/-- A regular expression; `start` and `finish` match at the two ends of a text only. -/
inductive Regex where
  | start
  | finish
  | char (accepts : Char → Bool)
  | seq (first second : Regex)
  | alt (first second : Regex)
  | star (body : Regex)

namespace Regex

/-- A position in a text: whether it is the start of the text, and what stands behind it. -/
structure Position where
  atStart : Bool
  rest : List Char

/-- Where the repetitions of a step end, each before those with fewer steps. A step that takes up
nothing is not repeated. -/
def repeated (step : Position → List Position) (p : Position) : List Position :=
  ((step p).flatMap fun q => if q.rest.length < p.rest.length then repeated step q else []) ++ [p]
termination_by p.rest.length

/-- Where the matches from a position end, the preferred one first. -/
def ends : Regex → Position → List Position
  | start, p => if p.atStart then [p] else []
  | finish, p => if p.rest.isEmpty then [p] else []
  | char accepts, p =>
    match p.rest with
    | [] => []
    | c :: cs => if accepts c then [⟨false, cs⟩] else []
  | seq first second, p => (first.ends p).flatMap second.ends
  | alt first second, p => first.ends p ++ second.ends p
  | star body, p => repeated body.ends p

/-- One repetition or more. -/
def plus (body : Regex) : Regex :=
  seq body (star body)

/-- Where the match from a position ends, if there is one that takes up something. -/
def next? (r : Regex) (p : Position) : Option Position :=
  (r.ends p).head?.filter fun q => q.rest.length < p.rest.length

/-- A match that counts takes up a character, so a search comes to an end. -/
theorem length_lt_of_next? {r : Regex} {p q : Position} (h : r.next? p = some q) :
    q.rest.length < p.rest.length := by
  rw [next?, Option.filter_eq_some_iff, decide_eq_true_eq] at h
  exact h.2

/-- The preferred match is the one that counts, if it takes up a character. -/
theorem next?_eq_of_head? {r : Regex} {p : Position} {next : Option Position}
    (h : (r.ends p).head? = next) (hlength : ∀ q, next = some q → q.rest.length < p.rest.length) :
    r.next? p = next := by
  rw [next?, h]
  cases next with
  | none => rfl
  | some q => rw [Option.filter_some, if_pos (decide_eq_true (hlength q rfl))]

/-- A text cut up from left to right into matches, given by the positions where they start, and the
characters between them. -/
def pieces (r : Regex) (p : Position) : List (Char ⊕ Position) :=
  match _h : r.next? p with
  | some q => .inr p :: r.pieces q
  | none =>
    match _h' : p.rest with
    | [] => []
    | c :: cs => .inl c :: r.pieces ⟨false, cs⟩
termination_by p.rest.length
decreasing_by
  · exact length_lt_of_next? _h
  · rw [_h']
    simp

/-- Whether there is a match somewhere behind a position. -/
def isFound (r : Regex) (p : Position) : Bool :=
  (r.pieces p).any Sum.isRight

/-- What the middle one of three expressions takes up when they match one behind the other. -/
def captured? (before middle behind : Regex) (p : Position) : Option (List Char) :=
  (before.ends p).findSome? fun q => (middle.ends q).findSome? fun m =>
    (behind.ends m).head?.map fun _ => q.rest.take (q.rest.length - m.rest.length)

variable {r : Regex} {p q : Position} {c : Char} {cs : List Char} {atStart : Bool}

/-- Where there is a match, it is a piece, and the search goes on behind it. -/
theorem pieces_of_some (h : r.next? p = some q) : r.pieces p = .inr p :: r.pieces q := by
  rw [pieces]
  split
  · rename_i hnext
    rw [h] at hnext
    cases hnext
    rfl
  · rename_i hnext
    rw [h] at hnext
    cases hnext

/-- The end of a text is no piece. -/
theorem pieces_nil (h : r.next? ⟨atStart, []⟩ = none) : r.pieces ⟨atStart, []⟩ = [] := by
  rw [pieces]
  split
  · rename_i hnext
    rw [h] at hnext
    cases hnext
  · rfl

/-- Where there is no match, the character is a piece of its own. -/
theorem pieces_cons (h : r.next? ⟨atStart, c :: cs⟩ = none) :
    r.pieces ⟨atStart, c :: cs⟩ = .inl c :: r.pieces ⟨false, cs⟩ := by
  rw [pieces]
  split
  · rename_i hnext
    rw [h] at hnext
    cases hnext
  · rfl

/-- Nothing is found at the end of a text without a match there. -/
theorem isFound_nil (h : r.next? ⟨atStart, []⟩ = none) :
    r.isFound ⟨atStart, []⟩ = false := by
  rw [isFound, pieces_nil h]
  rfl

/-- There is a match at a position or behind the next character. -/
theorem isFound_cons (r : Regex) (atStart : Bool) (c : Char) (cs : List Char) :
    r.isFound ⟨atStart, c :: cs⟩
      = ((r.next? ⟨atStart, c :: cs⟩).isSome || r.isFound ⟨false, cs⟩) := by
  cases hnext : r.next? ⟨atStart, c :: cs⟩ with
  | some q =>
    rw [isFound, pieces_of_some hnext]
    rfl
  | none =>
    rw [isFound, pieces_cons hnext]
    rfl

/-! ### Repetitions -/

/-- A character matches or not, and takes up itself. -/
theorem ends_char_cons (accepts : Char → Bool) (atStart : Bool) (c : Char) (cs : List Char) :
    (char accepts).ends ⟨atStart, c :: cs⟩ = if accepts c then [⟨false, cs⟩] else [] := rfl

/-- A character that is not accepted is no match. -/
theorem ends_char_of_eq_false {accepts : Char → Bool} (h : accepts c = false) (atStart : Bool)
    (cs : List Char) : (char accepts).ends ⟨atStart, c :: cs⟩ = [] := by
  rw [ends_char_cons, h, if_neg Bool.false_ne_true]

/-- Where the body always takes up something, the repetition goes on from each of its ends, or stops
where it is. -/
theorem ends_star {body : Regex} (h : ∀ q ∈ body.ends p, q.rest.length < p.rest.length) :
    (star body).ends p = (body.ends p).flatMap (star body).ends ++ [p] := by
  rw [ends, repeated, List.flatMap_def, List.map_congr_left fun q hq => if_pos (h q hq),
    ← List.flatMap_def]
  rfl

/-- Where the body takes up something and leaves one way to go on, the repetition goes on from there
first. -/
theorem ends_star_of_ends {body : Regex} (h : body.ends p = [q])
    (hlength : q.rest.length < p.rest.length) : (star body).ends p = (star body).ends q ++ [p] := by
  rw [ends_star (by simpa [h] using hlength), h, List.flatMap_singleton]

/-- What does not match is repeated no times. -/
theorem ends_star_of_nil {body : Regex} (h : body.ends p = []) : (star body).ends p = [p] := by
  rw [ends_star (by simp [h]), h]
  rfl

/-- Repeating takes nothing back. -/
theorem length_le_of_mem_repeated {step : Position → List Position}
    (h : q ∈ repeated step p) : q.rest.length ≤ p.rest.length := by
  induction hlength : p.rest.length using Nat.strongRecOn generalizing p with
  | ind n ih =>
    rw [repeated, List.mem_append, List.mem_flatMap, List.mem_singleton] at h
    rcases h with ⟨m, -, hq⟩ | rfl
    · split at hq
      · rename_i hlt
        have hle := ih _ (hlength ▸ hlt) hq rfl
        omega
      · cases hq
    · exact Nat.le_of_eq hlength

/-- A match does not go back in the text. -/
theorem length_le_of_mem_ends (h : q ∈ r.ends p) : q.rest.length ≤ p.rest.length := by
  induction r generalizing p q with
  | start =>
    rw [ends] at h
    split at h
    · exact Nat.le_of_eq (by rw [List.mem_singleton.mp h])
    · cases h
  | finish =>
    rw [ends] at h
    split at h
    · exact Nat.le_of_eq (by rw [List.mem_singleton.mp h])
    · cases h
  | char accepts =>
    rw [ends] at h
    split at h
    · cases h
    · rename_i c cs hcs
      split at h
      · rw [List.mem_singleton.mp h, hcs]
        exact Nat.le_succ _
      · cases h
  | seq first second ihfirst ihsecond =>
    -- Single matches take at most what they look at, and the others are put together from them.
    obtain ⟨m, hm, hq⟩ := List.mem_flatMap.mp h
    exact Nat.le_trans (ihsecond hq) (ihfirst hm)
  | alt first second ihfirst ihsecond =>
    rcases List.mem_append.mp h with h | h
    · exact ihfirst h
    · exact ihsecond h
  | star body ih => exact length_le_of_mem_repeated h

/-- A match of a character takes it up. -/
theorem exists_of_mem_ends_char {accepts : Char → Bool} (h : q ∈ (char accepts).ends p) :
    ∃ c, p.rest = c :: q.rest ∧ accepts c = true := by
  rw [ends] at h
  split at h
  · cases h
  · rename_i c cs hcs
    split at h
    · rename_i hc
      rw [List.mem_singleton.mp h]
      exact ⟨c, hcs, hc⟩
    · cases h

/-- The end of the text takes up nothing. -/
theorem eq_of_mem_ends_finish (h : q ∈ finish.ends p) : q = p ∧ p.rest = [] := by
  rw [ends] at h
  split at h
  · rename_i hempty
    exact ⟨List.mem_singleton.mp h, List.isEmpty_iff.mp hempty⟩
  · cases h

/-- The repetition of a character takes up as many as there are, or else it leaves one of them
behind. -/
theorem ends_star_char (accepts : Char → Bool) (cs : List Char) :
    ∃ others, (star (char accepts)).ends ⟨false, cs⟩ = ⟨false, cs.dropWhile accepts⟩ :: others ∧
      ∀ q ∈ others, ∃ c behind, q.rest = c :: behind ∧ accepts c = true := by
  induction cs with
  | nil => exact ⟨[], ends_star_of_nil rfl, by simp⟩
  | cons c cs ih =>
    by_cases hc : accepts c = true
    · obtain ⟨others, hends, hothers⟩ := ih
      have hstep : (char accepts).ends ⟨false, c :: cs⟩ = [⟨false, cs⟩] := by
        rw [ends_char_cons, if_pos hc]
      -- The new way to match is no repetition at all, which is tried last and leaves `c` behind.
      refine ⟨others ++ [⟨false, c :: cs⟩], ?_, ?_⟩
      · rw [ends_star_of_ends hstep (by simp), hends, List.dropWhile_cons_of_pos hc]
        rfl
      · intro q hq
        rcases List.mem_append.mp hq with hq | hq
        · exact hothers q hq
        · rw [List.mem_singleton.mp hq]
          exact ⟨c, cs, rfl, hc⟩
    · rw [Bool.not_eq_true] at hc
      have hstep : (char accepts).ends ⟨false, c :: cs⟩ = [] := ends_char_of_eq_false hc false cs
      refine ⟨[], ?_, by simp⟩
      rw [ends_star_of_nil hstep, List.dropWhile_cons_of_neg (by simp [hc])]

end Regex

end SqlSelect
