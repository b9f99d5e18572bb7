import Mathlib
import Resemblance.Assignment.Solver

/-!
# Augmenting a matching

The labels of a state are in order if they dominate the weights, with equality at matched crossings,
and no free column is raised. A path leads from a free column over parents in a tree and the columns
that these had to a free row, the root of the tree. Augmenting along a path matches the root, keeps
every matched row matched, and leaves labels in order as they are.

On the way one column is displaced: it has lost its row and has not got another one yet. Everywhere
else rows and columns name each other.
-/

namespace Resemblance

namespace Solver

variable {rows columns : Nat}

theorem get_set {Item : Type} {count : Nat} (items : Vector Item count)
    (index other : Fin count) (item : Item) :
    (items.set index.val item index.isLt).get other =
      if index = other then item else items.get other := by
  simp [Vector.get_eq_getElem, Vector.getElem_set, Fin.ext_iff]

/-- The labels of a state are in order. -/
structure Labelled (weight : Fin rows → Fin columns → Int) (state : State rows columns) :
    Prop where
  /-- Labels dominate weights. -/
  slack_nonneg : ∀ row column, 0 ≤ state.slackAt weight row column
  /-- Matched crossings have no slack. -/
  tight : ∀ row column, state.rowOf.get column = some row → state.slackAt weight row column = 0
  /-- No column is lowered. -/
  column_nonneg : ∀ column : Fin columns, 0 ≤ state.columnLabel.get column
  /-- No free column is raised. -/
  free_zero : ∀ column : Fin columns, state.rowOf.get column = none →
    state.columnLabel.get column = 0

/-- Rows and columns that are matched name each other. -/
def State.Inverse (state : State rows columns) : Prop :=
  ∀ (row : Fin rows) (column : Fin columns),
    state.columnOf.get row = some column ↔ state.rowOf.get column = some row

/-- Matched rows and columns name each other, except that no row has the displaced column. -/
structure State.Displaced (state : State rows columns) (displaced : Fin columns) : Prop where
  /-- No row has the displaced column. -/
  missing : ∀ row : Fin rows, state.columnOf.get row ≠ some displaced
  /-- All other columns and their rows name each other. -/
  others : ∀ (row : Fin rows) (column : Fin columns), column ≠ displaced →
    (state.columnOf.get row = some column ↔ state.rowOf.get column = some row)

theorem State.Inverse.displaced {state : State rows columns} (inverse : state.Inverse)
    {column : Fin columns} (free : state.rowOf.get column = none) : state.Displaced column where
  missing := by
    intro row taken
    rw [(inverse row column).mp taken] at free
    cases free
  others := fun row column _ => inverse row column

/-- The state after a row and a column were matched, whatever they were matched to. -/
def State.connect (state : State rows columns) (row : Fin rows) (column : Fin columns) :
    State rows columns :=
  { state with
    rowOf := state.rowOf.set column.val (some row) column.isLt
    columnOf := state.columnOf.set row.val (some column) row.isLt }

theorem columnOf_connect (state : State rows columns) (row other : Fin rows)
    (column : Fin columns) :
    (state.connect row column).columnOf.get other =
      if row = other then some column else state.columnOf.get other :=
  get_set state.columnOf row other (some column)

theorem rowOf_connect (state : State rows columns) (row : Fin rows) (column other : Fin columns) :
    (state.connect row column).rowOf.get other =
      if column = other then some row else state.rowOf.get other :=
  get_set state.rowOf column other (some row)

theorem augment_succ (state : State rows columns) (tree : Tree rows columns)
    (column : Fin columns) (steps : Nat) :
    augment state tree column (steps + 1) =
      match tree.parent?.get column with
      | none => state
      | some row =>
          match state.columnOf.get row with
          | none => state.connect row column
          | some former => augment (state.connect row column) tree former steps :=
  rfl

theorem Labelled.connect {weight : Fin rows → Fin columns → Int} {state : State rows columns}
    (labelled : Labelled weight state) {row : Fin rows} {column : Fin columns}
    (tight : state.slackAt weight row column = 0) : Labelled weight (state.connect row column) where
  slack_nonneg := labelled.slack_nonneg
  column_nonneg := labelled.column_nonneg
  tight := by
    intro other crossing matched
    rw [rowOf_connect] at matched
    split at matched
    · rename_i same
      rw [Option.some.injEq] at matched
      subst same matched
      exact tight
    · exact labelled.tight other crossing matched
  free_zero := by
    intro other free
    rw [rowOf_connect] at free
    split at free
    · cases free
    · exact labelled.free_zero other free

/-- After a row got the displaced column, a column that was not its own has a row that names it. -/
theorem State.Displaced.connect_iff {state : State rows columns} {displaced column : Fin columns}
    (almost : state.Displaced displaced) {row : Fin rows}
    (notOwned : column ≠ displaced → state.rowOf.get column ≠ some row) (other : Fin rows) :
    (state.connect row displaced).columnOf.get other = some column ↔
      (state.connect row displaced).rowOf.get column = some other := by
  rw [columnOf_connect, rowOf_connect]
  by_cases sameRow : row = other
  · by_cases sameColumn : displaced = column
    · rw [if_pos sameRow, if_pos sameColumn]
      exact iff_of_true (congrArg some sameColumn) (congrArg some sameRow)
    · rw [if_pos sameRow, if_neg sameColumn, Option.some.injEq, ← sameRow]
      exact iff_of_false sameColumn (notOwned (Ne.symm sameColumn))
  · by_cases sameColumn : displaced = column
    · rw [if_neg sameRow, if_pos sameColumn, Option.some.injEq, ← sameColumn]
      exact iff_of_false (almost.missing other) sameRow
    · rw [if_neg sameRow, if_neg sameColumn]
      exact almost.others other column (Ne.symm sameColumn)

/-- Matching a row that was free finishes the repair of a displaced column. -/
theorem State.Displaced.connect_free {state : State rows columns} {displaced : Fin columns}
    (almost : state.Displaced displaced) {row : Fin rows} (free : state.columnOf.get row = none) :
    (state.connect row displaced).Inverse := by
  intro other column
  apply almost.connect_iff
  intro column_ne owned
  rw [← almost.others row column column_ne, free] at owned
  cases owned

/-- Matching a row that had a column displaces that column. -/
theorem State.Displaced.connect_matched {state : State rows columns}
    {displaced former : Fin columns} (almost : state.Displaced displaced) {row : Fin rows}
    (matched : state.columnOf.get row = some former) :
    (state.connect row displaced).Displaced former := by
  have former_ne : former ≠ displaced := by
    rintro rfl
    exact almost.missing row matched
  constructor
  · intro other taken
    rw [columnOf_connect] at taken
    split at taken
    · rw [Option.some.injEq] at taken
      exact former_ne taken.symm
    · rename_i different
      rw [almost.others other former former_ne, (almost.others row former former_ne).mp matched,
        Option.some.injEq] at taken
      exact different taken
  · intro other column column_ne
    apply almost.connect_iff
    intro column_ne_displaced owned
    rw [← almost.others row column column_ne_displaced, matched, Option.some.injEq] at owned
    exact column_ne owned.symm

/-! ## Paths -/

/--
From a column the parents of a tree lead, over the columns that they are matched to, to the root in
`length` steps, and the root is free.
-/
inductive Path (state : State rows columns) (tree : Tree rows columns) (root : Fin rows) :
    (column : Fin columns) → (length : Nat) → Prop where
  | last {column : Fin columns} (parent : tree.parent?.get column = some root)
      (free : state.columnOf.get root = none) : Path state tree root column 1
  | step {column former : Fin columns} {row : Fin rows} {length : Nat}
      (parent : tree.parent?.get column = some row) (matched : state.columnOf.get row = some former)
      (rest : Path state tree root former length) : Path state tree root column (length + 1)

namespace Path

variable {state : State rows columns} {tree : Tree rows columns} {root : Fin rows}
  {column : Fin columns} {length : Nat}

theorem length_unique {other : Nat} (path : Path state tree root column length)
    (again : Path state tree root column other) : length = other := by
  induction path generalizing other with
  | last parent free =>
      cases again with
      | last => rfl
      | step otherParent matched _ =>
          rw [parent, Option.some.injEq] at otherParent
          rw [← otherParent, free] at matched
          cases matched
  | step parent matched _ ih =>
      cases again with
      | last otherParent free =>
          rw [parent, Option.some.injEq] at otherParent
          rw [otherParent, free] at matched
          cases matched
      | step otherParent otherMatched rest =>
          rw [parent, Option.some.injEq] at otherParent
          rw [← otherParent, matched, Option.some.injEq] at otherMatched
          rw [← otherMatched] at rest
          rw [ih rest]

/-- A path that is not longer than the one from the column of a row does not use that row. -/
theorem connect {former displaced : Fin columns} {row : Fin rows} {bound : Nat}
    (fromFormer : Path state tree root former bound)
    (matched : state.columnOf.get row = some former)
    (path : Path state tree root column length) (short : length ≤ bound) :
    Path (state.connect row displaced) tree root column length := by
  induction path with
  | last parent free =>
      apply Path.last parent
      rw [columnOf_connect, if_neg]
      · exact free
      · rintro rfl
        rw [matched] at free
        cases free
  | step parent otherMatched rest ih =>
      apply Path.step parent _ (ih (by omega))
      rw [columnOf_connect, if_neg]
      · exact otherMatched
      · rintro rfl
        rw [matched, Option.some.injEq] at otherMatched
        rw [← otherMatched] at rest
        have same := fromFormer.length_unique rest
        omega

section Parent

variable {row : Fin rows} (path : Path state tree root column length)
  (parent : tree.parent?.get column = some row)

include path parent

/-- A path ends with the root at the first row that is free. -/
theorem eq_root (free : state.columnOf.get row = none) : row = root := by
  cases path with
  | last rootParent _ =>
      rw [parent, Option.some.injEq] at rootParent
      exact rootParent
  | step otherParent matched _ =>
      rw [parent, Option.some.injEq] at otherParent
      rw [← otherParent, free] at matched
      cases matched

/-- A path goes on from the column that a row has. -/
theorem rest {former : Fin columns} (matched : state.columnOf.get row = some former) :
    ∃ remaining, length = remaining + 1 ∧ Path state tree root former remaining := by
  cases path with
  | last rootParent free =>
      rw [parent, Option.some.injEq] at rootParent
      rw [rootParent, free] at matched
      cases matched
  | step otherParent otherMatched rest =>
      rw [parent, Option.some.injEq] at otherParent
      rw [← otherParent, matched, Option.some.injEq] at otherMatched
      rw [← otherMatched] at rest
      exact ⟨_, rfl, rest⟩

end Parent

end Path

/-! ## Augmentation -/

/-- What augmenting from a displaced column gives. -/
structure Augmented (weight : Fin rows → Fin columns → Int) (root : Fin rows)
    (state result : State rows columns) : Prop where
  labelled : Labelled weight result
  inverse : result.Inverse
  rowLabel_eq : result.rowLabel = state.rowLabel
  columnLabel_eq : result.columnLabel = state.columnLabel
  /-- The root is matched, and no row has lost or gained a match otherwise. -/
  matched_iff : ∀ row : Fin rows,
    (result.columnOf.get row).isSome ↔ row = root ∨ (state.columnOf.get row).isSome

/-- Augmenting along a path matches the root and nothing else. -/
theorem augmented_augment {weight : Fin rows → Fin columns → Int} {tree : Tree rows columns}
    {root : Fin rows} {state : State rows columns} {column : Fin columns} {length steps : Nat}
    (labelled : Labelled weight state) (displaced : state.Displaced column)
    (path : Path state tree root column length)
    (tight : ∀ row column, tree.parent?.get column = some row →
      state.slackAt weight row column = 0)
    (enough : length ≤ steps) :
    Augmented weight root state (augment state tree column steps) := by
  induction steps generalizing state column length with
  | zero =>
      cases path <;> omega
  | succ steps ih =>
      rw [augment_succ]
      cases path with
      | last parent free =>
          have connected := labelled.connect (tight root column parent)
          simp only [parent, free]
          refine ⟨connected, displaced.connect_free free, rfl, rfl, ?_⟩
          intro row
          rw [columnOf_connect]
          by_cases same : root = row
          · simp [same]
          · simp [same, Ne.symm same]
      | @step _ former row length parent matched rest =>
          have connected := labelled.connect (tight row column parent)
          have remaining : Path (state.connect row column) tree root former length :=
            rest.connect matched rest (Nat.le_refl length)
          have later := ih connected (displaced.connect_matched matched) remaining tight (by omega)
          simp only [parent, matched]
          refine ⟨later.labelled, later.inverse, later.rowLabel_eq, later.columnLabel_eq, ?_⟩
          intro other
          rw [later.matched_iff, columnOf_connect]
          by_cases same : row = other
          · rw [← same, matched]
            simp
          · simp [same]

end Solver

end Resemblance
