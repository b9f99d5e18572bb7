import Resemblance.Proofs.Assignment.Augmentation

/-!
# Growing a tree

The tree of a free row holds the rows that are reached from it over crossings without slack. Each
step takes the column outside the tree with the least slack, changes the labels of the tree by that
slack and adds the column, and then the row that the column is matched to. `Growing` is what every
step preserves. As every column of the tree but the last one is matched, and the root is not, a free
column is reached before the matched rows run out.
-/

namespace Resemblance

namespace Solver

variable {rows columns : Nat}

/-- The number of columns in a tree. -/
def Tree.size (tree : Tree rows columns) : Nat :=
  (Finset.univ.filter fun column : Fin columns => (tree.parent?.get column).isSome).card

/-- The number of rows that are matched. -/
def State.matchedRows (state : State rows columns) : Nat :=
  (Finset.univ.filter fun row : Fin rows => (state.columnOf.get row).isSome).card

/-! ## The next column -/

/-- The better one of a candidate and a further column: outside the tree, and with less slack. -/
def Tree.better (tree : Tree rows columns) (best? : Option (Fin columns)) (column : Fin columns) :
    Option (Fin columns) :=
  if (tree.parent?.get column).isSome then best?
  else
    match best? with
    | none => some column
    | some best => if tree.slack.get column < tree.slack.get best then some column else best?

theorem Tree.nextColumn?_eq (tree : Tree rows columns) :
    tree.nextColumn? = (List.finRange columns).foldl tree.better none :=
  rfl

/-- Among some columns this is one outside the tree with the least slack, if there is one. -/
structure Tree.Chooses (tree : Tree rows columns) (candidates : List (Fin columns))
    (best? : Option (Fin columns)) : Prop where
  /-- The choice is outside the tree. -/
  outside : ∀ best, best? = some best → tree.parent?.get best = none
  /-- Something is chosen if there is a column outside the tree, and nothing else has less slack. -/
  least : ∀ column ∈ candidates, tree.parent?.get column = none →
    ∃ best, best? = some best ∧ tree.slack.get best ≤ tree.slack.get column

theorem Tree.Chooses.better {tree : Tree rows columns} {candidates : List (Fin columns)}
    {best? : Option (Fin columns)} (chooses : tree.Chooses candidates best?)
    (column : Fin columns) :
    tree.Chooses (candidates ++ [column]) (tree.better best? column) := by
  have earlier (other : Fin columns) (member : other ∈ candidates ++ [column])
      (outside : tree.parent?.get other = none) : other ∈ candidates ∨ other = column := by
    simpa using member
  by_cases inside : (tree.parent?.get column).isSome
  · have unchanged : tree.better best? column = best? :=
      if_pos inside
    rw [unchanged]
    refine ⟨chooses.outside, ?_⟩
    intro other member outside
    rcases earlier other member outside with candidate | rfl
    · exact chooses.least other candidate outside
    · simp [outside] at inside
  · have columnOutside : tree.parent?.get column = none := by
      simpa using inside
    cases best? with
    | none =>
        have changed : tree.better none column = some column :=
          if_neg inside
        rw [changed]
        constructor
        · rintro best ⟨⟩
          exact columnOutside
        · intro other member outside
          rcases earlier other member outside with candidate | rfl
          · rcases chooses.least other candidate outside with ⟨best, impossible, _⟩
            cases impossible
          · exact ⟨other, rfl, Int.le_refl _⟩
    | some best =>
        have step : tree.better (some best) column =
            if tree.slack.get column < tree.slack.get best then some column else some best :=
          if_neg inside
        rw [step]
        split
        · rename_i less
          constructor
          · rintro _ ⟨⟩
            exact columnOutside
          · intro other member outside
            rcases earlier other member outside with candidate | rfl
            · rcases chooses.least other candidate outside with ⟨_, ⟨⟩, bestLe⟩
              exact ⟨column, rfl, by omega⟩
            · exact ⟨other, rfl, Int.le_refl _⟩
        · rename_i notLess
          refine ⟨chooses.outside, ?_⟩
          intro other member outside
          rcases earlier other member outside with candidate | rfl
          · exact chooses.least other candidate outside
          · exact ⟨best, rfl, by omega⟩

theorem Tree.chooses_foldl {tree : Tree rows columns} (others : List (Fin columns))
    {candidates : List (Fin columns)} {best? : Option (Fin columns)}
    (chooses : tree.Chooses candidates best?) :
    tree.Chooses (candidates ++ others) (others.foldl tree.better best?) := by
  induction others generalizing candidates best? with
  | nil =>
      rw [List.append_nil]
      exact chooses
  | cons column others ih =>
      have later := ih (chooses.better column)
      rw [List.append_assoc] at later
      exact later

theorem Tree.chooses_nextColumn? (tree : Tree rows columns) :
    tree.Chooses (List.finRange columns) tree.nextColumn? := by
  have start : tree.Chooses [] none := by
    constructor
    · intro best impossible
      cases impossible
    · intro column member
      cases member
  rw [Tree.nextColumn?_eq]
  exact Tree.chooses_foldl (List.finRange columns) start

section Chosen

variable {tree : Tree rows columns} {column : Fin columns}
  (chosen : tree.nextColumn? = some column)

include chosen

theorem Tree.outside_of_nextColumn? : tree.parent?.get column = none :=
  tree.chooses_nextColumn?.outside column chosen

theorem Tree.slack_le_of_nextColumn? (other : Fin columns)
    (outside : tree.parent?.get other = none) : tree.slack.get column ≤ tree.slack.get other := by
  rcases tree.chooses_nextColumn?.least other (List.mem_finRange other) outside with
    ⟨best, again, le⟩
  rw [chosen, Option.some.injEq] at again
  rw [again]
  exact le

end Chosen

/-! ## Growing by a column -/

section Column

variable {weight : Fin rows → Fin columns → Int} {state : State rows columns}
  {tree : Tree rows columns} {column : Fin columns}

theorem rowLabel_growColumn (nonneg : 0 ≤ tree.slack.get column) (row : Fin rows) :
    (growColumn state tree column).1.rowLabel.get row =
      state.rowLabel.get row - if tree.reached.get row then tree.slack.get column else 0 := by
  rw [growColumn]
  split
  · simp only [State.relabel, Vector.get_ofFn]
    split <;> omega
  · dsimp only
    split <;> omega

theorem columnLabel_growColumn (nonneg : 0 ≤ tree.slack.get column) (other : Fin columns) :
    (growColumn state tree column).1.columnLabel.get other =
      state.columnLabel.get other +
        if (tree.parent?.get other).isSome then tree.slack.get column else 0 := by
  rw [growColumn]
  split
  · simp only [State.relabel, Vector.get_ofFn]
    split <;> omega
  · dsimp only
    split <;> omega

theorem slackAt_growColumn (nonneg : 0 ≤ tree.slack.get column) (row : Fin rows)
    (other : Fin columns) :
    (growColumn state tree column).1.slackAt weight row other =
      state.slackAt weight row other - (if tree.reached.get row then tree.slack.get column else 0) +
        if (tree.parent?.get other).isSome then tree.slack.get column else 0 := by
  simp only [State.slackAt, rowLabel_growColumn nonneg, columnLabel_growColumn nonneg]
  omega

@[simp]
theorem columnOf_growColumn (state : State rows columns) (tree : Tree rows columns)
    (column : Fin columns) : (growColumn state tree column).1.columnOf = state.columnOf := by
  rw [growColumn]
  split <;> rfl

@[simp]
theorem rowOf_growColumn (state : State rows columns) (tree : Tree rows columns)
    (column : Fin columns) : (growColumn state tree column).1.rowOf = state.rowOf := by
  rw [growColumn]
  split <;> rfl

@[simp]
theorem reached_growColumn (state : State rows columns) (tree : Tree rows columns)
    (column : Fin columns) : (growColumn state tree column).2.reached = tree.reached := by
  rw [growColumn]
  split <;> rfl

@[simp]
theorem nearest_growColumn (state : State rows columns) (tree : Tree rows columns)
    (column : Fin columns) : (growColumn state tree column).2.nearest = tree.nearest := by
  rw [growColumn]
  split <;> rfl

theorem parent?_growColumn (state : State rows columns) (tree : Tree rows columns)
    (column other : Fin columns) :
    (growColumn state tree column).2.parent?.get other =
      if column = other then some (tree.nearest.get column) else tree.parent?.get other := by
  rw [growColumn]
  split <;> exact get_set tree.parent? column other _

theorem slack_growColumn (nonneg : 0 ≤ tree.slack.get column) {other : Fin columns}
    (outside : tree.parent?.get other = none) :
    (growColumn state tree column).2.slack.get other =
      tree.slack.get other - tree.slack.get column := by
  rw [growColumn]
  split
  · simp only [Tree.addColumn, Tree.lowerSlack, Vector.get_ofFn, outside]
    simp
  · simp only [Tree.addColumn]
    omega

theorem slack_growColumn_inside (state : State rows columns) (column : Fin columns)
    {other : Fin columns} (inside : (tree.parent?.get other).isSome) :
    (growColumn state tree column).2.slack.get other = tree.slack.get other := by
  rw [growColumn]
  split
  · simp only [Tree.addColumn, Tree.lowerSlack, Vector.get_ofFn, inside, if_true]
  · rfl

theorem size_growColumn (outside : tree.parent?.get column = none) :
    (growColumn state tree column).2.size = tree.size + 1 := by
  have grown : (Finset.univ.filter fun other : Fin columns =>
        ((growColumn state tree column).2.parent?.get other).isSome) =
      insert column
        (Finset.univ.filter fun other : Fin columns => (tree.parent?.get other).isSome) := by
    ext other
    simp only [Finset.mem_filter, Finset.mem_univ, true_and, Finset.mem_insert, parent?_growColumn]
    by_cases same : column = other
    · simp [same]
    · simp [same, Ne.symm same]
  rw [Tree.size, grown, Finset.card_insert_of_notMem, Tree.size]
  simp only [Finset.mem_filter, outside, Option.isSome_none]
  simp

end Column

/-! ## Adding a row -/

section Row

variable (weight : Fin rows → Fin columns → Int) (state : State rows columns)
  (tree : Tree rows columns) (row : Fin rows)

@[simp]
theorem parent?_addRow : (tree.addRow weight state row).parent? = tree.parent? :=
  rfl

@[simp]
theorem size_addRow : (tree.addRow weight state row).size = tree.size :=
  rfl

theorem reached_addRow (other : Fin rows) :
    (tree.addRow weight state row).reached.get other = true ↔
      row = other ∨ tree.reached.get other = true := by
  simp only [Tree.addRow, get_set]
  split <;> simp [*]

variable {tree} {column : Fin columns}

theorem slack_addRow (outside : tree.parent?.get column = none) :
    (tree.addRow weight state row).slack.get column =
      if state.slackAt weight row column < tree.slack.get column then
        state.slackAt weight row column
      else tree.slack.get column := by
  simp only [Tree.addRow, Vector.get_ofFn, outside, Option.isNone_none, Bool.true_and,
    decide_eq_true_eq]

theorem slack_addRow_inside (inside : (tree.parent?.get column).isSome) :
    (tree.addRow weight state row).slack.get column = tree.slack.get column := by
  have notNone : (tree.parent?.get column).isNone = false := by
    simpa using inside
  simp only [Tree.addRow, Vector.get_ofFn, notNone, Bool.false_and, Bool.false_eq_true, if_false]

theorem nearest_addRow (outside : tree.parent?.get column = none) :
    (tree.addRow weight state row).nearest.get column =
      if state.slackAt weight row column < tree.slack.get column then row
      else tree.nearest.get column := by
  simp only [Tree.addRow, Vector.get_ofFn, outside, Option.isNone_none, Bool.true_and,
    decide_eq_true_eq]

end Row

/-! ## Matched columns -/

section Matched

variable {state : State rows columns} (inverse : state.Inverse)

include inverse

/-- There are no more columns with a row than matched rows. -/
theorem State.Inverse.card_le_matchedRows {owned : Finset (Fin columns)}
    (rowOf_ne : ∀ column ∈ owned, state.rowOf.get column ≠ none) :
    owned.card ≤ state.matchedRows := by
  apply Finset.card_le_card_of_forall_subsingleton
    fun (column : Fin columns) (row : Fin rows) => state.columnOf.get row = some column
  · intro column member
    rcases Option.ne_none_iff_exists'.mp (rowOf_ne column member) with ⟨row, owner⟩
    have matched := (inverse row column).mpr owner
    refine ⟨row, ?_, matched⟩
    simp only [Finset.mem_filter, Finset.mem_univ, true_and, matched, Option.isSome_some]
  · rintro row _ column ⟨_, matched⟩ other ⟨_, otherMatched⟩
    rw [matched, Option.some.injEq] at otherMatched
    exact otherMatched

/-- While there are more columns than matched rows, one of them is free. -/
theorem State.Inverse.exists_free (room : state.matchedRows < columns) :
    ∃ column : Fin columns, state.rowOf.get column = none := by
  by_contra noneFree
  have all : (Finset.univ : Finset (Fin columns)).card ≤ state.matchedRows := by
    apply inverse.card_le_matchedRows
    intro column _ free
    exact noneFree ⟨column, free⟩
  rw [Finset.card_univ, Fintype.card_fin] at all
  omega

end Matched

/-! ## Growth -/

/-- A path is the same in a larger tree. -/
theorem Path.mono {state later : State rows columns} {tree larger : Tree rows columns}
    {root : Fin rows} {column : Fin columns} {length : Nat}
    (columnOf_eq : later.columnOf = state.columnOf)
    (parents : ∀ (column : Fin columns) (row : Fin rows), tree.parent?.get column = some row →
      larger.parent?.get column = some row)
    (path : Path state tree root column length) : Path later larger root column length := by
  induction path with
  | last parent free =>
      apply Path.last (parents _ _ parent)
      rw [columnOf_eq]
      exact free
  | step parent matched _ ih =>
      apply Path.step (parents _ _ parent) _ ih
      rw [columnOf_eq]
      exact matched

/-- What holds of the tree of a free row between two steps of its growth. -/
structure Growing (weight : Fin rows → Fin columns → Int) (root : Fin rows)
    (state : State rows columns) (tree : Tree rows columns) : Prop where
  labelled : Labelled weight state
  inverse : state.Inverse
  root_free : state.columnOf.get root = none
  /-- The tree has reached its root and the rows of its columns. -/
  reached_iff : ∀ row : Fin rows, tree.reached.get row = true ↔
    row = root ∨ ∃ column : Fin columns,
      (tree.parent?.get column).isSome ∧ state.columnOf.get row = some column
  /-- The columns of the tree are matched. -/
  owned : ∀ column : Fin columns, (tree.parent?.get column).isSome → state.rowOf.get column ≠ none
  /-- The tree reached its columns over crossings without slack. -/
  parent_tight : ∀ (row : Fin rows) (column : Fin columns), tree.parent?.get column = some row →
    tree.reached.get row = true ∧ state.slackAt weight row column = 0
  /-- The nearest row to a column outside the tree is in the tree and has the slack noted. -/
  nearest : ∀ column : Fin columns, tree.parent?.get column = none →
    tree.reached.get (tree.nearest.get column) = true ∧
      state.slackAt weight (tree.nearest.get column) column = tree.slack.get column
  /-- No row in the tree has less slack. -/
  least : ∀ (row : Fin rows) (column : Fin columns), tree.reached.get row = true →
    tree.parent?.get column = none → tree.slack.get column ≤ state.slackAt weight row column
  /-- From each of its columns a path leads back to the root. -/
  path : ∀ column : Fin columns, (tree.parent?.get column).isSome →
    ∃ length, length ≤ tree.size ∧ Path state tree root column length

namespace Growing

variable {weight : Fin rows → Fin columns → Int} {root : Fin rows} {state : State rows columns}
  {tree : Tree rows columns}

theorem slack_nonneg (growing : Growing weight root state tree) {column : Fin columns}
    (outside : tree.parent?.get column = none) : 0 ≤ tree.slack.get column := by
  rw [← (growing.nearest column outside).2]
  exact growing.labelled.slack_nonneg _ _

/-- A matched row is in the tree together with its column. -/
theorem reached_iff_isSome (growing : Growing weight root state tree) {row : Fin rows}
    {column : Fin columns} (matched : state.columnOf.get row = some column) :
    tree.reached.get row = true ↔ (tree.parent?.get column).isSome := by
  rw [growing.reached_iff]
  constructor
  · rintro (rfl | ⟨other, inside, otherMatched⟩)
    · rw [growing.root_free] at matched
      cases matched
    · rw [matched, Option.some.injEq] at otherMatched
      rw [otherMatched]
      exact inside
  · intro inside
    exact Or.inr ⟨column, inside, matched⟩

/-- A tree has no more columns than there are matched rows. -/
theorem size_le (growing : Growing weight root state tree) : tree.size ≤ state.matchedRows := by
  apply growing.inverse.card_le_matchedRows
  intro column member
  exact growing.owned column (Finset.mem_filter.mp member).2

end Growing

end Solver

end Resemblance
