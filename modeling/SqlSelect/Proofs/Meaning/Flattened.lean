import SqlSelect.Proofs.Meaning.Trees

/-!
# `SqlSelect.Proofs.Meaning.Flattened`: trees that are written alike

A group of one criterion leaves no trace in the text, and neither does a group inside another one of
the same conjunction. `Criterion.flatten` takes both out of a tree. A group of one criterion hands
the conjunction of its own group down to it, so the two cases meet: in a chain of such groups it is
the innermost one that meets the outermost one.

What is left is written in the plainest way: `Criterion.writeNested` puts parentheses around every
group inside another group, and around nothing else.

* `Criterion.sqlWithin_flatten`: by induction on the tree, with the children of a group between the
  words of the group.
* `Criterion.flatten_join`: criteria that are joined are flattened into one group, which does not
  show in which order they were joined.
* `Criterion.writeWithin_flatten`: a tree, its flattening and what is written.
-/

set_option autoImplicit false

namespace SqlSelect

/-- Two lists with the separator between them are one list with the separator. -/
theorem Sql.joinWith_append (separator : String) {xs ys : List Sql} (hx : xs ≠ []) (hy : ys ≠ []) :
    joinWith separator (xs ++ ys)
      = joinWith separator xs ++ ofText separator ++ joinWith separator ys := by
  induction xs with
  | nil => exact absurd rfl hx
  | cons x xs ih =>
    cases xs with
    | nil =>
      obtain ⟨y, ys, rfl⟩ := List.exists_cons_of_ne_nil hy
      rfl
    | cons x' xs =>
      have hrest := ih (by simp)
      rw [List.cons_append] at hrest
      simp only [List.cons_append, joinWith, hrest, List.append_assoc]

namespace Criterion

/-! ### Flat trees -/

/-- The criteria that stand for a criterion in a group: the children of a group of the same
conjunction, and otherwise the criterion alone. -/
def splice (conjunction : Conjunction) : Criterion → List Criterion
  | comparison c => [comparison c]
  | group inner children =>
    if inner = conjunction then children else [group inner children]

mutual

/-- The criterion with every group of one criterion replaced by this criterion, and every group
inside another one of the same conjunction by its children. -/
def flatten : Criterion → Criterion
  | comparison c => comparison c
  -- The conjunction of the group is lost, so `only` may be spliced into a group around it.
  | group _ [only] => flatten only
  | group conjunction children => group conjunction (flattenAll conjunction children)

/-- The criteria that stand for those of a group. -/
def flattenAll (conjunction : Conjunction) : List Criterion → List Criterion
  | [] => []
  | child :: children => splice conjunction (flatten child) ++ flattenAll conjunction children

end

/-- The conjunction of a group. -/
def conjunction? : Criterion → Option Conjunction
  | comparison _ => none
  | group conjunction _ => some conjunction

mutual

/-- Every group of the criterion has several children, and none of them is a group of the same
conjunction. -/
def IsFlat : Criterion → Prop
  | comparison _ => True
  | group conjunction children => 2 ≤ children.length ∧ AllFlat conjunction children

/-- The criteria may be the children of a group in a flat tree. -/
def AllFlat (conjunction : Conjunction) : List Criterion → Prop
  | [] => True
  | child :: children =>
    (child.IsFlat ∧ child.conjunction? ≠ some conjunction) ∧ AllFlat conjunction children

end

/-- The children of a flat group are flat, and none of them is a group of the same conjunction. -/
theorem allFlat_iff {conjunction : Conjunction} {children : List Criterion} :
    AllFlat conjunction children ↔
      ∀ child ∈ children, child.IsFlat ∧ child.conjunction? ≠ some conjunction := by
  induction children with
  | nil => simp [AllFlat]
  | cons child children ih => simp [AllFlat, ih]

/-- What stands for a flat criterion may stand in the group. -/
theorem IsFlat.allFlat_splice {c : Criterion} (h : c.IsFlat) (conjunction : Conjunction) :
    AllFlat conjunction (splice conjunction c) := by
  cases c with
  | comparison c => exact ⟨⟨trivial, by simp [conjunction?]⟩, trivial⟩
  | group inner children =>
    unfold splice
    dsimp only
    split
    · -- None of the children is a group of this conjunction, since the group is flat itself.
      rename_i hsame
      subst hsame
      exact h.2
    · rename_i hother
      exact ⟨⟨h, fun hsame => hother (Option.some.inj hsame)⟩, trivial⟩

/-- A flat criterion stands for itself or for several others. -/
theorem IsFlat.one_le_length_splice {c : Criterion} (h : c.IsFlat) (conjunction : Conjunction) :
    1 ≤ (splice conjunction c).length := by
  cases c with
  | comparison c => exact Nat.le_refl 1
  | group inner children =>
    unfold splice
    dsimp only
    split
    · exact Nat.le_of_succ_le h.1
    · exact Nat.le_refl 1

/-- Children are flattened one by one, so a list of them can be cut anywhere. -/
theorem flattenAll_append (conjunction : Conjunction) (xs ys : List Criterion) :
    flattenAll conjunction (xs ++ ys) = flattenAll conjunction xs ++ flattenAll conjunction ys := by
  induction xs with
  | nil => rfl
  | cons x xs ih => rw [List.cons_append, flattenAll, flattenAll, ih, List.append_assoc]

mutual

/-- No group of one criterion is left after flattening, and no group inside one of its own
conjunction. -/
theorem isFlat_flatten : (c : Criterion) → c.WellFormed → c.flatten.IsFlat
  | comparison _, _ => trivial
  | group _ [], h => absurd rfl h.1
  | group _ [only], h => by
    rw [flatten]
    exact isFlat_flatten only h.2.1
  | group conjunction (first :: second :: rest), h => by
    obtain ⟨hflat, hlength⟩ := allFlat_flattenAll conjunction (first :: second :: rest) h.2
    rw [flatten]
    · exact ⟨Nat.le_trans (by simp) hlength, hflat⟩
    · simp

/-- The same for the children of a group. Each of them leaves at least one criterion, so a group of
two or more stays one. -/
theorem allFlat_flattenAll (conjunction : Conjunction) : (children : List Criterion) →
    AllWellFormed children → AllFlat conjunction (flattenAll conjunction children) ∧
      children.length ≤ (flattenAll conjunction children).length
  | [], _ => ⟨trivial, Nat.le_refl 0⟩
  | child :: children, h => by
    have hchild := isFlat_flatten child h.1
    obtain ⟨hflat, hlength⟩ := allFlat_flattenAll conjunction children h.2
    have hfirst := hchild.one_le_length_splice conjunction
    rw [flattenAll]
    refine ⟨allFlat_iff.mpr fun c hc => ?_, ?_⟩
    · rcases List.mem_append.mp hc with hc | hc
      · exact allFlat_iff.mp (hchild.allFlat_splice conjunction) c hc
      · exact allFlat_iff.mp hflat c hc
    · rw [List.length_append, List.length_cons]
      omega

end

/-! ### The text of a flat tree -/

section

variable (s : Style)

/-- Children are written one by one, too. -/
theorem sqlOfAll_append (parent : Conjunction) (xs ys : List Criterion) :
    sqlOfAll s parent (xs ++ ys) = sqlOfAll s parent xs ++ sqlOfAll s parent ys := by
  induction xs with
  | nil => rfl
  | cons x xs ih => rw [List.cons_append, sqlOfAll, sqlOfAll, ih, List.cons_append]

/-- There is something to write for a group with a child. -/
theorem sqlOfAll_ne_nil (parent : Conjunction) {children : List Criterion}
    (h : 1 ≤ children.length) : sqlOfAll s parent children ≠ [] := by
  match children, h with
  | child :: children, _ => simp [sqlOfAll]

/-- A group of several criteria shows where its word may not stand. -/
theorem sqlWithin_of_two_le {conjunction : Conjunction} {children : List Criterion}
    (h : 2 ≤ children.length) (parent : Option Conjunction) :
    (group conjunction children).sqlWithin s parent
      = match parent with
        | some outer =>
          if outer = conjunction then
            Sql.joinWith conjunction.sql (sqlOfAll s conjunction children)
          else (Sql.joinWith conjunction.sql (sqlOfAll s conjunction children)).parenthesized
        | none => Sql.joinWith conjunction.sql (sqlOfAll s conjunction children) := by
  match children, h with
  | first :: second :: rest, _ => cases parent <;> simp only [sqlWithin]

/-- Between the words of a group, the criteria that stand for another one leave its text. -/
theorem joinWith_sqlOfAll_splice (conjunction : Conjunction) {c : Criterion} (h : c.IsFlat) :
    Sql.joinWith conjunction.sql (sqlOfAll s conjunction (splice conjunction c))
      = c.sqlWithin s (some conjunction) := by
  cases c with
  | comparison c => rfl
  | group inner children =>
    unfold splice
    dsimp only
    split
    · rename_i hsame
      subst hsame
      rw [sqlWithin_of_two_le s h.1]
      exact (if_pos rfl).symm
    · rfl

mutual

/-- Groups that are taken out of a tree leave no trace in its text. -/
theorem sqlWithin_flatten (parent : Option Conjunction) : (c : Criterion) → c.WellFormed →
    c.flatten.sqlWithin s parent = c.sqlWithin s parent
  | comparison _, _ => rfl
  | group _ [], h => absurd rfl h.1
  | group _ [only], h => by
    -- A single child is written where its group stands, with the conjunction around the group.
    rw [flatten, sqlWithin]
    exact sqlWithin_flatten parent only h.2.1
  | group conjunction (first :: second :: rest), h => by
    -- No child is lost, so the flattened group is still one of several.
    have hlength : 2 ≤ (flattenAll conjunction (first :: second :: rest)).length :=
      Nat.le_trans (by simp) (allFlat_flattenAll conjunction (first :: second :: rest) h.2).2
    have htext := joinWith_sqlOfAll_flattenAll conjunction (first :: second :: rest) h.2
    rw [flatten, sqlWithin_of_two_le s hlength, htext, sqlWithin_of_two_le s (by simp)]
    simp

/-- The criteria that stand for those of a group leave the same text between its words. -/
theorem joinWith_sqlOfAll_flattenAll (conjunction : Conjunction) : (children : List Criterion) →
    AllWellFormed children →
    Sql.joinWith conjunction.sql (sqlOfAll s conjunction (flattenAll conjunction children))
      = Sql.joinWith conjunction.sql (sqlOfAll s conjunction children)
  | [], _ => rfl
  | [only], h => by
    have hsplice := joinWith_sqlOfAll_splice s conjunction (isFlat_flatten only h.1)
    rw [flattenAll, flattenAll, List.append_nil, hsplice,
      sqlWithin_flatten (some conjunction) only h.1]
    rfl
  | first :: second :: rest, h => by
    -- A child that is spliced brings its own words, which are the words of the group.
    have hflat := isFlat_flatten first h.1
    have hrest := joinWith_sqlOfAll_flattenAll conjunction (second :: rest) h.2
    have hlength : 1 ≤ (flattenAll conjunction (second :: rest)).length :=
      Nat.le_trans (by simp) (allFlat_flattenAll conjunction (second :: rest) h.2).2
    rw [flattenAll, sqlOfAll_append,
      Sql.joinWith_append _ (sqlOfAll_ne_nil s _ (hflat.one_le_length_splice conjunction))
        (sqlOfAll_ne_nil s _ hlength),
      joinWith_sqlOfAll_splice s conjunction hflat, hrest,
      sqlWithin_flatten (some conjunction) first h.1]
    rfl

end

end

/-! ### Criteria that are joined -/

/-- A group of two or more stays a group, with its children flattened into it. -/
theorem flatten_of_two_le {conjunction : Conjunction} {children : List Criterion}
    (h : 2 ≤ children.length) :
    (group conjunction children).flatten = group conjunction (flattenAll conjunction children) := by
  match children, h with
  | first :: second :: rest, _ => simp only [flatten]

/-- In a group of its own conjunction, a group leaves the criteria that stand for its children. -/
theorem splice_flatten_group (conjunction : Conjunction) {children : List Criterion}
    (h : children ≠ []) :
    splice conjunction (group conjunction children).flatten = flattenAll conjunction children := by
  match children, h with
  | [only], _ => simp [flatten, flattenAll]
  | first :: second :: rest, _ => rw [flatten_of_two_le (by simp), splice, if_pos rfl]

/-- Criteria that are joined end up side by side in one group, also where one of them is such a
group already. -/
theorem flatten_join {left : Criterion} (h : left.WellFormed) (conjunction : Conjunction)
    (right : Criterion) :
    (left.join conjunction right).flatten
      = group conjunction
          (splice conjunction left.flatten ++ splice conjunction right.flatten) := by
  have hpair : (group conjunction [left, right]).flatten
      = group conjunction
          (splice conjunction left.flatten ++ splice conjunction right.flatten) := by
    rw [flatten_of_two_le (by simp), flattenAll, flattenAll, flattenAll, List.append_nil]
  cases left with
  | comparison c => exact hpair
  | group inner children =>
    unfold join
    dsimp only
    split
    · -- The right one becomes the last child of the left one, which is spliced either way.
      rename_i hsame
      subst hsame
      have hlength : 2 ≤ (children ++ [right]).length := by
        have hchildren := List.length_pos_of_ne_nil h.1
        rw [List.length_append, List.length_singleton]
        omega
      rw [flatten_of_two_le hlength, flattenAll_append, flattenAll, flattenAll, List.append_nil,
        splice_flatten_group inner h.1]
    · exact hpair

/-- It does not show which two of three criteria were joined first. -/
theorem flatten_join_join {a b : Criterion} (ha : a.WellFormed) (hb : b.WellFormed)
    (conjunction : Conjunction) (c : Criterion) :
    ((a.join conjunction b).join conjunction c).flatten
      = (a.join conjunction (b.join conjunction c)).flatten := by
  rw [flatten_join (ha.join hb conjunction), flatten_join ha, flatten_join ha, flatten_join hb,
    splice, splice, if_pos rfl, if_pos rfl, List.append_assoc]

/-! ### What is written -/

section

variable (w : Writer)

/-- Writing depends on the text with its values alone. -/
theorem writeWithin_congr {parent : Option Conjunction} {c c' : Criterion}
    (h : c'.sqlWithin w.toStyle parent = c.sqlWithin w.toStyle parent) :
    c'.writeWithin w parent = c.writeWithin w parent := by
  funext bound
  have hleft := (writes_writeWithin (w := w) parent c').run bound
  have hright := (writes_writeWithin (w := w) parent c).run bound
  rw [h] at hleft
  exact hleft.trans hright.symm

/-- The text of a criterion inside a group, between parentheses if it is a group itself. -/
def enclosed : Criterion → String → String
  | comparison _, text => text
  | group _ _, text => "(" ++ text ++ ")"

mutual

/-- Writes a criterion with parentheses around every group inside another group, and around nothing
else. -/
def writeNested : Criterion → Writing String
  | comparison c => c.write w
  | group conjunction children => do
    let parts ← writeNestedAll children
    return String.intercalate conjunction.sql parts

/-- Writes the criteria of a group. -/
def writeNestedAll : List Criterion → Writing (List String)
  | [] => return []
  | child :: children => do
    let first ← writeNested child
    let rest ← writeNestedAll children
    return enclosed child first :: rest

end

/-- A group of several criteria shows where its word may not stand. -/
theorem writeWithin_of_two_le {conjunction : Conjunction} {children : List Criterion}
    (h : 2 ≤ children.length) (parent : Option Conjunction) :
    (group conjunction children).writeWithin w parent = (do
      let parts ← writeAll w conjunction children
      let condition := String.intercalate conjunction.sql parts
      return match parent with
        | some outer => if outer = conjunction then condition else "(" ++ condition ++ ")"
        | none => condition) := by
  match children, h with
  | first :: second :: rest, _ => cases parent <;> simp only [writeWithin]

/-- The text of a criterion inside a group with the conjunction `parent`, or at the top: a group of
the other conjunction stands between parentheses. -/
def enclosedIn (parent : Option Conjunction) (c : Criterion) (text : String) : String :=
  match parent, c.conjunction? with
  | some outer, some inner => if outer = inner then text else "(" ++ text ++ ")"
  | _, _ => text

/-- If the children of a group are written the same in both ways, so is the group, in the
parentheses that the group around it asks for. -/
theorem writeWithin_group_of_writeAll {conjunction : Conjunction} {children : List Criterion}
    (hlength : 2 ≤ children.length)
    (h : writeAll w conjunction children = writeNestedAll w children)
    (parent : Option Conjunction) :
    (group conjunction children).writeWithin w parent
      = enclosedIn parent (group conjunction children)
          <$> (group conjunction children).writeNested w := by
  rw [writeWithin_of_two_le w hlength, h, writeNested]
  cases parent <;> simp [enclosedIn, conjunction?]

/-- In a group of a flat tree every group is of the other conjunction, so it is written between
parentheses. -/
theorem writeAll_of_allFlat (conjunction : Conjunction) : (children : List Criterion) →
    AllFlat conjunction children → writeAll w conjunction children = writeNestedAll w children
  | [], _ => rfl
  | child :: children, h => by
    have hrest := writeAll_of_allFlat conjunction children h.2
    have hfirst : child.writeWithin w (some conjunction)
        = enclosed child <$> child.writeNested w := by
      match child, h.1 with
      | comparison c, _ => rfl
      | group inner grandchildren, ⟨hflat, hother⟩ =>
        -- A flat child is no group of the conjunction around it, so it gets its parentheses.
        have hinner : conjunction ≠ inner := fun hsame => hother (congrArg some hsame.symm)
        have hall := writeAll_of_allFlat inner grandchildren hflat.2
        have henclosed : enclosedIn (some conjunction) (group inner grandchildren)
            = enclosed (group inner grandchildren) := by
          funext text
          exact if_neg hinner
        rw [writeWithin_group_of_writeAll w hflat.1 hall, henclosed]
    rw [writeAll, writeNestedAll, hfirst, hrest]
    simp

/-- A flat tree is written in the plainest way, by induction with its children. -/
theorem writeWithin_of_isFlat {c : Criterion} (h : c.IsFlat) (parent : Option Conjunction) :
    c.writeWithin w parent = c.enclosedIn parent <$> c.writeNested w := by
  cases c with
  | comparison c => cases parent <;> rfl
  | group conjunction children =>
    have hall := writeAll_of_allFlat w conjunction children h.2
    exact writeWithin_group_of_writeAll w h.1 hall parent

end

/-- Criteria that are flattened alike are written alike. -/
theorem writeWithin_eq_of_flatten_eq {c c' : Criterion} (hc : c.WellFormed) (hc' : c'.WellFormed)
    (h : c.flatten = c'.flatten) (w : Writer) (parent : Option Conjunction) :
    c.writeWithin w parent = c'.writeWithin w parent := by
  refine writeWithin_congr w ?_
  rw [← sqlWithin_flatten w.toStyle parent c hc, h, sqlWithin_flatten w.toStyle parent c' hc']

/-- What is written of a tree depends on its flattening alone, at the top and inside a group of
either conjunction, for every dialect and in both modes. Of the groups of the flattening, those
inside another group are written between parentheses, and those alone. So criteria that are joined
by one conjunction are written alike, in whichever order they were joined. The dialect may write the
comparisons in any way, as they are the same ones on both sides. -/
theorem writeWithin_flatten :
    (∀ c : Criterion, c.WellFormed → c.flatten.IsFlat ∧
      ∀ (w : Writer) (parent : Option Conjunction),
        c.flatten.writeWithin w parent = c.writeWithin w parent ∧
        c.writeWithin w parent = c.flatten.enclosedIn parent <$> c.flatten.writeNested w) ∧
    ∀ a b c : Criterion, a.WellFormed → b.WellFormed → c.WellFormed →
      ∀ (w : Writer) (parent : Option Conjunction),
        ((a.and b).and c).writeWithin w parent = (a.and (b.and c)).writeWithin w parent ∧
        ((a.or b).or c).writeWithin w parent = (a.or (b.or c)).writeWithin w parent := by
  refine ⟨fun c hc => ?_, fun a b c ha hb hc w parent => ?_⟩
  · have hflat := isFlat_flatten c hc
    refine ⟨hflat, fun w parent => ?_⟩
    have hsame : c.flatten.writeWithin w parent = c.writeWithin w parent :=
      writeWithin_congr w (sqlWithin_flatten w.toStyle parent c hc)
    exact ⟨hsame, hsame ▸ writeWithin_of_isFlat w hflat parent⟩
  · have hjoin : ∀ conjunction, ((a.join conjunction b).join conjunction c).writeWithin w parent
        = (a.join conjunction (b.join conjunction c)).writeWithin w parent := by
      intro conjunction
      exact writeWithin_eq_of_flatten_eq ((ha.join hb conjunction).join hc conjunction)
        (ha.join (hb.join hc conjunction) conjunction) (flatten_join_join ha hb conjunction c) w
        parent
    exact ⟨hjoin .and, hjoin .or⟩

/-- An AND group inside a group of one criterion, inside another AND group, and an OR group in
it. -/
theorem writeWithin_flatten_transparentGroup :
    let missing (column : String) := comparison ⟨column, .nullness false, false⟩
    let c := group .and [missing "t.a", group .or
      [group .and [missing "t.b", group .or [missing "t.c", missing "t.d"]]]]
    let flat := group .and [missing "t.a", missing "t.b", group .or [missing "t.c", missing "t.d"]]
    c.WellFormed ∧ c.flatten = flat ∧ (∀ w, c.write w = flat.writeNested w) ∧
      (Id.run ((c.write { dialect := Backend.postgres.dialect, mode := .inline }).run [])).1
        = "t.a IS NULL AND t.b IS NULL AND (t.c IS NULL OR t.d IS NULL)" := by
  intro missing c flat
  have hwell : c.WellFormed :=
    ⟨by simp, trivial, ⟨by simp, ⟨by simp, trivial, ⟨by simp, trivial, trivial, trivial⟩, trivial⟩,
      trivial⟩, trivial⟩
  have hflat : c.flatten = flat := rfl
  refine ⟨hwell, hflat, fun w => ?_, by decide +kernel⟩
  obtain ⟨-, hwritten⟩ := writeWithin_flatten.1 c hwell
  rw [hflat] at hwritten
  exact (hwritten w none).2.trans (id_map _)

end Criterion

end SqlSelect
