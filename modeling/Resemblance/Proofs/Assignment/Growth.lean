import Resemblance.Proofs.Assignment.Tree

/-!
# Reaching a free column

A step of the growth keeps labels in order: it changes them by the least slack outside the tree.
The column that joins is then tight at its parent, and if it is matched, its row joins as well. As
every such step uses up a matched row, a free column is reached after one more step than there are
matched rows.
-/

namespace Resemblance

namespace Solver

variable {rows columns : Nat} {weight : Fin rows → Fin columns → Int} {root : Fin rows}
  {state : State rows columns} {tree : Tree rows columns} {column : Fin columns}

namespace Growing

/-! ## The column that joins -/

section Step

variable (growing : Growing weight root state tree) (outside : tree.parent?.get column = none)

include growing outside

theorem labelled_growColumn
    (least : ∀ other : Fin columns, tree.parent?.get other = none →
      tree.slack.get column ≤ tree.slack.get other) :
    Labelled weight (growColumn state tree column).1 := by
  have nonneg := growing.slack_nonneg outside
  constructor
  · intro row other
    rw [slackAt_growColumn nonneg]
    have before := growing.labelled.slack_nonneg row other
    by_cases inside : (tree.parent?.get other).isSome
    · rw [if_pos inside]
      split <;> omega
    · rw [if_neg inside]
      split
      · rename_i reached
        have otherOutside : tree.parent?.get other = none := by
          simpa only [Option.not_isSome_iff_eq_none] using inside
        have near := growing.least row other reached otherOutside
        have smallest := least other otherOutside
        omega
      · omega
  · intro row other owner
    rw [rowOf_growColumn] at owner
    have matched := (growing.inverse row other).mpr owner
    have together := growing.reached_iff_isSome matched
    have before := growing.labelled.tight row other owner
    rw [slackAt_growColumn nonneg]
    by_cases inside : (tree.parent?.get other).isSome
    · rw [if_pos (together.mpr inside), if_pos inside]
      omega
    · rw [if_neg (mt together.mp inside), if_neg inside]
      omega
  · intro other
    rw [columnLabel_growColumn nonneg]
    have before := growing.labelled.column_nonneg other
    split <;> omega
  · intro other free
    rw [rowOf_growColumn] at free
    rw [columnLabel_growColumn nonneg, growing.labelled.free_zero other free, if_neg]
    · rfl
    · intro inside
      exact growing.owned other inside free

omit outside in
theorem inverse_growColumn : (growColumn state tree column).1.Inverse := by
  intro row other
  rw [columnOf_growColumn, rowOf_growColumn]
  exact growing.inverse row other

theorem parent_tight_growColumn (row : Fin rows) (other : Fin columns)
    (parent : (growColumn state tree column).2.parent?.get other = some row) :
    tree.reached.get row = true ∧
      (growColumn state tree column).1.slackAt weight row other = 0 := by
  have nonneg := growing.slack_nonneg outside
  rw [slackAt_growColumn nonneg]
  rw [parent?_growColumn] at parent
  split at parent
  · rename_i same
    rw [Option.some.injEq] at parent
    subst same parent
    have near := growing.nearest column outside
    refine ⟨near.1, ?_⟩
    rw [if_pos near.1, near.2, outside]
    simp
  · have before := growing.parent_tight row other parent
    refine ⟨before.1, ?_⟩
    rw [if_pos before.1, before.2, parent]
    simp

theorem path_growColumn (other : Fin columns)
    (inside : ((growColumn state tree column).2.parent?.get other).isSome) :
    ∃ length, length ≤ tree.size + 1 ∧
      Path (growColumn state tree column).1 (growColumn state tree column).2 root other length := by
  have kept (former : Fin columns) (row : Fin rows) (parent : tree.parent?.get former = some row) :
      (growColumn state tree column).2.parent?.get former = some row := by
    rw [parent?_growColumn, if_neg]
    · exact parent
    · rintro rfl
      rw [outside] at parent
      cases parent
  have same := columnOf_growColumn state tree column
  rw [parent?_growColumn] at inside
  split at inside
  · rename_i joined
    subst joined
    have parent : (growColumn state tree column).2.parent?.get column =
        some (tree.nearest.get column) := by
      rw [parent?_growColumn, if_pos rfl]
    rcases (growing.reached_iff _).mp (growing.nearest column outside).1 with isRoot | found
    · rw [isRoot] at parent
      refine ⟨1, by omega, Path.last parent ?_⟩
      rw [same]
      exact growing.root_free
    · rcases found with ⟨former, formerInside, matched⟩
      rcases growing.path former formerInside with ⟨length, short, path⟩
      refine ⟨length + 1, by omega, Path.step parent ?_ (path.mono same kept)⟩
      rw [same]
      exact matched
  · rcases growing.path other inside with ⟨length, short, path⟩
    exact ⟨length, by omega, path.mono same kept⟩

theorem nearest_growColumn_tight (other : Fin columns)
    (otherOutside : (growColumn state tree column).2.parent?.get other = none) :
    tree.parent?.get other = none ∧ tree.reached.get (tree.nearest.get other) = true ∧
      (growColumn state tree column).1.slackAt weight (tree.nearest.get other) other =
        (growColumn state tree column).2.slack.get other := by
  have nonneg := growing.slack_nonneg outside
  have before : tree.parent?.get other = none := by
    rw [parent?_growColumn] at otherOutside
    split at otherOutside
    · cases otherOutside
    · exact otherOutside
  have near := growing.nearest other before
  refine ⟨before, near.1, ?_⟩
  rw [slackAt_growColumn nonneg, slack_growColumn nonneg before, if_pos near.1, near.2, before]
  simp

theorem least_growColumn (row : Fin rows) (other : Fin columns)
    (reached : tree.reached.get row = true)
    (otherOutside : (growColumn state tree column).2.parent?.get other = none) :
    (growColumn state tree column).2.slack.get other ≤
      (growColumn state tree column).1.slackAt weight row other := by
  have nonneg := growing.slack_nonneg outside
  have before := (growing.nearest_growColumn_tight outside other otherOutside).1
  have near := growing.least row other reached before
  rw [slackAt_growColumn nonneg, slack_growColumn nonneg before, if_pos reached, before]
  simp only [Option.isSome_none]
  simp
  omega

/-! ## The row that joins -/

omit outside in
/-- The row of the column that joins is reached with it, and no other row is. -/
theorem reached_iff_addRow {row : Fin rows} (owner : state.rowOf.get column = some row)
    (other : Fin rows) :
    ((growColumn state tree column).2.addRow weight (growColumn state tree column).1 row).reached.get
        other = true ↔
      other = root ∨ ∃ crossing : Fin columns,
        ((growColumn state tree column).2.parent?.get crossing).isSome ∧
          (growColumn state tree column).1.columnOf.get other = some crossing := by
  have matched := (growing.inverse row column).mpr owner
  simp only [reached_addRow, reached_growColumn, growing.reached_iff, columnOf_growColumn,
    parent?_growColumn]
  constructor
  · rintro (rfl | rfl | ⟨crossing, inside, otherMatched⟩)
    · exact Or.inr ⟨column, by simp, matched⟩
    · exact Or.inl rfl
    · refine Or.inr ⟨crossing, ?_, otherMatched⟩
      split
      · rfl
      · exact inside
  · rintro (rfl | ⟨crossing, inside, otherMatched⟩)
    · exact Or.inr (Or.inl rfl)
    · split at inside
      · rename_i same
        left
        have otherOwner := (growing.inverse other crossing).mp otherMatched
        rw [← same, owner, Option.some.injEq] at otherOwner
        exact otherOwner
      · exact Or.inr (Or.inr ⟨crossing, inside, otherMatched⟩)

theorem addRow (least : ∀ other : Fin columns, tree.parent?.get other = none →
      tree.slack.get column ≤ tree.slack.get other)
    {row : Fin rows} (owner : state.rowOf.get column = some row) :
    Growing weight root (growColumn state tree column).1
      ((growColumn state tree column).2.addRow weight (growColumn state tree column).1 row) where
  labelled := growing.labelled_growColumn outside least
  inverse := growing.inverse_growColumn
  root_free := by
    rw [columnOf_growColumn]
    exact growing.root_free
  reached_iff := growing.reached_iff_addRow owner
  owned := by
    intro other inside
    rw [parent?_addRow, parent?_growColumn] at inside
    rw [rowOf_growColumn]
    split at inside
    · rename_i same
      rw [← same, owner]
      exact Option.some_ne_none row
    · exact growing.owned other inside
  parent_tight := by
    intro other crossing parent
    have tight := growing.parent_tight_growColumn outside other crossing parent
    refine ⟨?_, tight.2⟩
    rw [reached_addRow, reached_growColumn]
    exact Or.inr tight.1
  nearest := by
    intro other otherOutside
    rw [parent?_addRow] at otherOutside
    have near := growing.nearest_growColumn_tight outside other otherOutside
    simp only [reached_addRow, nearest_addRow _ _ _ otherOutside, slack_addRow _ _ _ otherOutside,
      nearest_growColumn, reached_growColumn]
    split
    · exact ⟨Or.inl rfl, rfl⟩
    · exact ⟨Or.inr near.2.1, near.2.2⟩
  least := by
    intro other crossing reached crossingOutside
    rw [parent?_addRow] at crossingOutside
    rw [slack_addRow _ _ _ crossingOutside]
    rw [reached_addRow, reached_growColumn] at reached
    rcases reached with rfl | reached
    · split <;> omega
    · have near := growing.least_growColumn outside other crossing reached crossingOutside
      split <;> omega
  path := by
    intro other inside
    rcases growing.path_growColumn outside other inside with ⟨length, short, path⟩
    refine ⟨length, ?_, path.mono rfl ?_⟩
    · rw [size_addRow, size_growColumn outside]
      exact short
    · intro crossing parentRow parent
      exact parent

end Step

end Growing

/-! ## The whole growth -/

theorem growing_plant (labelled : Labelled weight state) (inverse : state.Inverse)
    (free : state.columnOf.get root = none) :
    Growing weight root state (plant weight state root) := by
  have bare (column : Fin columns) : (plant weight state root).parent?.get column = none :=
    Vector.get_ofFn _ column
  constructor
  · exact labelled
  · exact inverse
  · exact free
  · intro row
    simp [plant]
  · intro column inside
    rw [bare] at inside
    cases inside
  · intro row column parent
    rw [bare] at parent
    cases parent
  · intro column _
    simp [plant]
  · intro row column reached _
    simp only [plant, Vector.get_ofFn, decide_eq_true_eq] at reached ⊢
    rw [reached]
  · intro column inside
    rw [bare] at inside
    cases inside

theorem Tree.exists_outside (small : tree.size < columns) :
    ∃ column : Fin columns, tree.parent?.get column = none := by
  by_contra full
  have all : (Finset.univ.filter fun column : Fin columns => (tree.parent?.get column).isSome) =
      Finset.univ := by
    apply Finset.filter_true_of_mem
    intro column _
    rw [Option.isSome_iff_ne_none]
    exact fun outside => full ⟨column, outside⟩
  rw [Tree.size, all, Finset.card_univ, Fintype.card_fin] at small
  omega

theorem Tree.exists_nextColumn? (small : tree.size < columns) :
    ∃ column, tree.nextColumn? = some column ∧ tree.parent?.get column = none ∧
      ∀ other : Fin columns, tree.parent?.get other = none →
        tree.slack.get column ≤ tree.slack.get other := by
  rcases Tree.exists_outside small with ⟨some, someOutside⟩
  rcases tree.chooses_nextColumn?.least some (List.mem_finRange some) someOutside with
    ⟨column, chosen, _⟩
  exact ⟨column, chosen, Tree.outside_of_nextColumn? chosen, Tree.slack_le_of_nextColumn? chosen⟩

theorem grow_succ (weight : Fin rows → Fin columns → Int) (state : State rows columns)
    (tree : Tree rows columns) (steps : Nat) :
    grow weight state tree (steps + 1) =
      match tree.nextColumn? with
      | none => none
      | some column =>
          let grown := growColumn state tree column
          match grown.1.rowOf.get column with
          | none => some (grown.1, grown.2, column)
          | some row => grow weight grown.1 (grown.2.addRow weight grown.1 row) steps :=
  rfl

/-- What growing a tree until it reaches a free column gives. -/
structure Reaches (weight : Fin rows → Fin columns → Int) (root : Fin rows)
    (state result : State rows columns) (tree : Tree rows columns) (column : Fin columns) :
    Prop where
  labelled : Labelled weight result
  inverse : result.Inverse
  columnOf_eq : result.columnOf = state.columnOf
  free : result.rowOf.get column = none
  parent_tight : ∀ (row : Fin rows) (column : Fin columns), tree.parent?.get column = some row →
    result.slackAt weight row column = 0
  /-- A path leads back from the column, with at most one step more than there are matched rows. -/
  path : ∃ length, length ≤ state.matchedRows + 1 ∧ Path result tree root column length

/-- There is no end before a free column while there are more columns than matched rows. -/
theorem Growing.reaches {steps : Nat} (growing : Growing weight root state tree)
    (room : state.matchedRows < columns)
    (enough : state.matchedRows + 1 ≤ tree.size + steps) :
    ∃ result larger column, grow weight state tree steps = some (result, larger, column) ∧
      Reaches weight root state result larger column := by
  induction steps generalizing state tree with
  | zero =>
      have small := growing.size_le
      omega
  | succ steps ih =>
      have small := growing.size_le
      rcases Tree.exists_nextColumn? (small.trans_lt room) with ⟨column, chosen, outside, least⟩
      have same := columnOf_growColumn state tree column
      rw [grow_succ, chosen]
      simp only [rowOf_growColumn]
      cases owner : state.rowOf.get column with
      | none =>
          refine ⟨_, _, column, rfl, ?_⟩
          constructor
          · exact growing.labelled_growColumn outside least
          · exact growing.inverse_growColumn
          · exact same
          · rw [rowOf_growColumn]
            exact owner
          · intro row other parent
            exact (growing.parent_tight_growColumn outside row other parent).2
          · have joined : ((growColumn state tree column).2.parent?.get column).isSome := by
              rw [parent?_growColumn, if_pos rfl]
              rfl
            rcases growing.path_growColumn outside column joined with ⟨length, short, path⟩
            exact ⟨length, by omega, path⟩
      | some row =>
          have matchedRows_eq : (growColumn state tree column).1.matchedRows =
              state.matchedRows := by
            rw [State.matchedRows, same, State.matchedRows]
          have larger := growing.addRow outside least owner
          have reaches := ih larger (by omega) (by
            rw [size_addRow, size_growColumn outside]
            omega)
          rcases reaches with ⟨result, final, free, grown, reaches⟩
          refine ⟨result, final, free, grown, ?_⟩
          constructor
          · exact reaches.labelled
          · exact reaches.inverse
          · rw [reaches.columnOf_eq]
            exact same
          · exact reaches.free
          · exact reaches.parent_tight
          · rw [← matchedRows_eq]
            exact reaches.path

end Solver

end Resemblance
