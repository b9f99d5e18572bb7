import Resemblance.Proofs.Assignment.Stages

/-!
# The range of the numbers in the solver

Weights are at least zero and at most some limit. Row labels start at most at the limit and are only
lowered. They do not fall below zero, because some column is free whenever labels change: its label
is zero, so the row labels alone exceed the weights there. Column labels start at zero and are only
raised, in the tree, where every column is matched; what the labels of a matched crossing have
together is its weight, so no column label exceeds the limit. Hence no slack is below zero or above
twice the limit, neither where the tree notes it nor anywhere else.

`Stage.Sound` is what every step from one stage to the next preserves.
-/

namespace Resemblance

namespace Solver

variable {rows columns : Nat}

/-- All labels are from zero up to a limit. -/
structure State.LabelsWithin (limit : Nat) (state : State rows columns) : Prop where
  row : ∀ row : Fin rows, 0 ≤ state.rowLabel.get row ∧ state.rowLabel.get row ≤ limit
  column : ∀ column : Fin columns,
    0 ≤ state.columnLabel.get column ∧ state.columnLabel.get column ≤ limit

/-- All slack that a tree notes is from zero up to twice a limit. -/
def Tree.SlackWithin (limit : Nat) (tree : Tree rows columns) : Prop :=
  ∀ column : Fin columns, 0 ≤ tree.slack.get column ∧ tree.slack.get column ≤ 2 * limit

/-- All weights are from zero up to a limit. -/
def WeightsWithin (limit : Nat) (weight : Fin rows → Fin columns → Int) : Prop :=
  ∀ row column, 0 ≤ weight row column ∧ weight row column ≤ limit

variable {weight : Fin rows → Fin columns → Int} {limit : Nat} {root : Fin rows}
  {state : State rows columns} {tree : Tree rows columns} {column : Fin columns}
  {selected walked : Nat}

/-! ## Labels in order -/

theorem State.LabelsWithin.slackAt_le (within : state.LabelsWithin limit)
    (bounded : WeightsWithin limit weight) (row : Fin rows) (column : Fin columns) :
    state.slackAt weight row column ≤ 2 * limit := by
  have rowLe := (within.row row).2
  have columnLe := (within.column column).2
  have nonneg := (bounded row column).1
  rw [State.slackAt]
  omega

/-- Labels in order are within the limit if row labels do not exceed it and a column is free. -/
theorem Labelled.labelsWithin (labelled : Labelled weight state)
    (bounded : WeightsWithin limit weight) (free : state.rowOf.get column = none)
    (row_le : ∀ row : Fin rows, state.rowLabel.get row ≤ limit) : state.LabelsWithin limit := by
  have row_nonneg (row : Fin rows) : 0 ≤ state.rowLabel.get row :=
    labelled.row_nonneg (fun row column => (bounded row column).1) free row
  refine ⟨fun row => ⟨row_nonneg row, row_le row⟩, ?_⟩
  intro other
  refine ⟨labelled.column_nonneg other, ?_⟩
  cases owner : state.rowOf.get other with
  | none =>
      rw [labelled.free_zero other owner]
      exact Int.natCast_nonneg limit
  | some row =>
      have tight := labelled.tight row other owner
      have nonneg := row_nonneg row
      have weightLe := (bounded row other).2
      rw [State.slackAt] at tight
      omega

/-! ## The start -/

theorem foldl_max_le {Item : Type} {value : Item → Int} {bound : Int}
    (value_le : ∀ item, value item ≤ bound) (items : List Item) {greatest : Int}
    (start_le : greatest ≤ bound) :
    items.foldl (fun greatest item => max greatest (value item)) greatest ≤ bound := by
  induction items generalizing greatest with
  | nil => exact start_le
  | cons item items ih => exact ih (max_le start_le (value_le item))

theorem labelsWithin_start (bounded : WeightsWithin limit weight) :
    (start weight).LabelsWithin limit where
  row := by
    intro row
    simp only [start, Vector.get_ofFn]
    refine ⟨rowMaximum_nonneg weight row, ?_⟩
    exact foldl_max_le (fun column => (bounded row column).2) _ (Int.natCast_nonneg limit)
  column := by
    intro column
    simp only [start, Vector.get_ofFn]
    exact ⟨le_rfl, Int.natCast_nonneg limit⟩

/-! ## The search -/

/-- What holds of the search for a free column, besides what holds of its tree. -/
structure Searching (weight : Fin rows → Fin columns → Int) (limit : Nat) (root : Fin rows)
    (selected : Nat) (state : State rows columns) (tree : Tree rows columns) : Prop where
  growing : Growing weight root state tree
  /-- The rows before the root are matched. -/
  matched_iff : ∀ row : Fin rows, (state.columnOf.get row).isSome ↔ row.val < root.val
  size_eq : tree.size = selected
  row_le : ∀ row : Fin rows, state.rowLabel.get row ≤ limit
  /-- The columns of the tree have no slack left. -/
  drained : ∀ column : Fin columns, (tree.parent?.get column).isSome → tree.slack.get column = 0

/-- The search has just selected a column. -/
inductive Joined (weight : Fin rows → Fin columns → Int) (limit : Nat) (root : Fin rows) :
    Nat → State rows columns → Tree rows columns → Fin columns → Prop where
  | join {selected : Nat} {state : State rows columns} {tree : Tree rows columns}
      {column : Fin columns} (searching : Searching weight limit root selected state tree)
      (chosen : tree.nextColumn? = some column) :
      Joined weight limit root (selected + 1) (growColumn state tree column).1
        (growColumn state tree column).2 column

/-- What holds on the way back from a free column to the root. -/
structure Walking (weight : Fin rows → Fin columns → Int) (limit : Nat) (root : Fin rows)
    (selected walked : Nat) (state : State rows columns) (tree : Tree rows columns)
    (column : Fin columns) : Prop where
  labelled : Labelled weight state
  displaced : state.Displaced column
  matched_iff : ∀ row : Fin rows, (state.columnOf.get row).isSome ↔ row.val < root.val
  parent_tight : ∀ (row : Fin rows) (column : Fin columns), tree.parent?.get column = some row →
    state.slackAt weight row column = 0
  /-- The rest of the way leads to the root. -/
  path : ∃ length, walked + length ≤ root.val + 1 ∧ Path state tree root column length
  labelsWithin : state.LabelsWithin limit
  slackWithin : tree.SlackWithin limit

namespace Searching

theorem plant {added : List (Fin rows)} (before : Added weight added state)
    (mem_iff : ∀ row : Fin rows, row ∈ added ↔ row.val < root.val)
    (within : state.LabelsWithin limit) :
    Searching weight limit root 0 state (plant weight state root) where
  growing := by
    apply growing_plant before.labelled before.inverse
    rw [← Option.not_isSome_iff_eq_none, before.matched_iff, mem_iff]
    exact Nat.lt_irrefl root.val
  matched_iff := fun row => (before.matched_iff row).trans (mem_iff row)
  size_eq := by
    simp [Tree.size, Solver.plant]
  row_le := fun row => (within.row row).2
  drained := by
    intro column inside
    simp [Solver.plant] at inside

variable (searching : Searching weight limit root selected state tree)

include searching

theorem matchedRows_eq : state.matchedRows = root.val :=
  State.matchedRows_eq root.isLt.le searching.matched_iff

/-- Every selected column was matched, so there were no more than matched rows. -/
theorem selected_le : selected ≤ root.val := by
  rw [← searching.size_eq, ← searching.matchedRows_eq]
  exact searching.growing.size_le

variable (bounded : WeightsWithin limit weight) (fits : rows ≤ columns)

include fits in
theorem exists_free : ∃ column : Fin columns, state.rowOf.get column = none := by
  apply searching.growing.inverse.exists_free
  rw [searching.matchedRows_eq]
  omega

include bounded fits in
theorem labelsWithin : state.LabelsWithin limit := by
  rcases searching.exists_free fits with ⟨column, free⟩
  exact searching.growing.labelled.labelsWithin bounded free searching.row_le

include bounded fits in
theorem slackWithin : tree.SlackWithin limit := by
  intro column
  cases parent : tree.parent?.get column with
  | none =>
      rw [← (searching.growing.nearest column parent).2]
      exact ⟨searching.growing.labelled.slack_nonneg _ _,
        (searching.labelsWithin bounded fits).slackAt_le bounded _ _⟩
  | some row =>
      rw [searching.drained column (by rw [parent, Option.isSome_some])]
      omega

end Searching

/-! ## A column that joins -/

section Join

variable (searching : Searching weight limit root selected state tree)
  (chosen : tree.nextColumn? = some column)

include searching chosen

theorem Searching.slack_nonneg : 0 ≤ tree.slack.get column :=
  searching.growing.slack_nonneg (Tree.outside_of_nextColumn? chosen)

theorem Searching.labelled_join : Labelled weight (growColumn state tree column).1 :=
  searching.growing.labelled_growColumn (Tree.outside_of_nextColumn? chosen)
    (Tree.slack_le_of_nextColumn? chosen)

theorem Searching.row_le_join (row : Fin rows) :
    (growColumn state tree column).1.rowLabel.get row ≤ limit := by
  have before := searching.row_le row
  have nonneg := searching.slack_nonneg chosen
  rw [rowLabel_growColumn nonneg]
  split <;> omega

theorem Searching.drained_join (other : Fin columns)
    (inside : ((growColumn state tree column).2.parent?.get other).isSome) :
    (growColumn state tree column).2.slack.get other = 0 := by
  have outside := Tree.outside_of_nextColumn? chosen
  have nonneg := searching.slack_nonneg chosen
  rw [parent?_growColumn] at inside
  split at inside
  · rename_i same
    rw [← same, slack_growColumn nonneg outside, Int.sub_self]
  · rw [slack_growColumn_inside state column inside]
    exact searching.drained other inside

/-- The row that a column had joins the tree behind it. -/
theorem Searching.addRow {row : Fin rows} (owner : state.rowOf.get column = some row) :
    Searching weight limit root (selected + 1) (growColumn state tree column).1
      ((growColumn state tree column).2.addRow weight (growColumn state tree column).1 row) where
  growing := searching.growing.addRow (Tree.outside_of_nextColumn? chosen)
    (Tree.slack_le_of_nextColumn? chosen) owner
  matched_iff := by
    rw [columnOf_growColumn]
    exact searching.matched_iff
  size_eq := by
    rw [size_addRow, size_growColumn (Tree.outside_of_nextColumn? chosen), searching.size_eq]
  row_le := searching.row_le_join chosen
  drained := by
    intro other inside
    rw [parent?_addRow] at inside
    rw [slack_addRow_inside _ _ _ inside]
    exact searching.drained_join chosen other inside

variable (bounded : WeightsWithin limit weight) (fits : rows ≤ columns)

include bounded fits

theorem Searching.labelsWithin_join : (growColumn state tree column).1.LabelsWithin limit := by
  rcases searching.exists_free fits with ⟨other, free⟩
  rw [← rowOf_growColumn state tree column] at free
  exact (searching.labelled_join chosen).labelsWithin bounded free (searching.row_le_join chosen)

theorem Searching.slackWithin_join : (growColumn state tree column).2.SlackWithin limit := by
  intro other
  cases parent : (growColumn state tree column).2.parent?.get other with
  | none =>
      have tight := searching.growing.nearest_growColumn_tight
        (Tree.outside_of_nextColumn? chosen) other parent
      rw [← tight.2.2]
      exact ⟨(searching.labelled_join chosen).slack_nonneg _ _,
        (searching.labelsWithin_join chosen bounded fits).slackAt_le bounded _ _⟩
  | some row =>
      rw [searching.drained_join chosen other (by rw [parent, Option.isSome_some])]
      omega

/-- The way back starts at a column that is free. -/
theorem Searching.reach (free : state.rowOf.get column = none) :
    Walking weight limit root (selected + 1) 0 (growColumn state tree column).1
      (growColumn state tree column).2 column where
  labelled := searching.labelled_join chosen
  displaced := by
    apply searching.growing.inverse_growColumn.displaced
    rw [rowOf_growColumn]
    exact free
  matched_iff := by
    rw [columnOf_growColumn]
    exact searching.matched_iff
  parent_tight := by
    intro row other parent
    exact (searching.growing.parent_tight_growColumn
      (Tree.outside_of_nextColumn? chosen) row other parent).2
  path := by
    have joined : ((growColumn state tree column).2.parent?.get column).isSome := by
      rw [parent?_growColumn, if_pos rfl]
      rfl
    rcases searching.growing.path_growColumn (Tree.outside_of_nextColumn? chosen) column joined with
      ⟨length, short, path⟩
    have small := searching.selected_le
    rw [searching.size_eq] at short
    exact ⟨length, by omega, path⟩
  labelsWithin := searching.labelsWithin_join chosen bounded fits
  slackWithin := searching.slackWithin_join chosen bounded fits

end Join

/-! ## The way back -/

section Walk

variable (walking : Walking weight limit root selected walked state tree column)

include walking

/-- Matched crossings are tight in both directions, also while a column is displaced. -/
theorem Walking.tight {row : Fin rows} {other : Fin columns}
    (matched : state.columnOf.get row = some other) : state.slackAt weight row other = 0 := by
  apply walking.labelled.tight
  rw [← walking.displaced.others row other]
  · exact matched
  · rintro rfl
    exact walking.displaced.missing row matched

/-- Rematching a row displaces the column that it had. -/
theorem Walking.onward {row : Fin rows} {former : Fin columns}
    (parent : tree.parent?.get column = some row)
    (matched : state.columnOf.get row = some former) :
    Walking weight limit root selected (walked + 1) (state.connect row column) tree former where
  labelled := walking.labelled.connect (walking.parent_tight row column parent)
  displaced := walking.displaced.connect_matched matched
  matched_iff := by
    intro other
    rw [columnOf_connect]
    split
    · rename_i same
      rw [← same, ← walking.matched_iff, matched]
      simp
    · exact walking.matched_iff other
  parent_tight := walking.parent_tight
  path := by
    rcases walking.path with ⟨_, short, path⟩
    rcases path.rest parent matched with ⟨remaining, rfl, rest⟩
    exact ⟨remaining, by omega, rest.connect matched rest (Nat.le_refl remaining)⟩
  labelsWithin := ⟨walking.labelsWithin.row, walking.labelsWithin.column⟩
  slackWithin := walking.slackWithin

/-- A row that had no column is the root, and with it one more row is added. -/
theorem Walking.finish {row : Fin rows} (parent : tree.parent?.get column = some row)
    (unmatched : state.columnOf.get row = none) :
    row = root ∧
      Added weight ((List.finRange rows).take (root.val + 1)) (state.connect row column) := by
  have isRoot : row = root := by
    rcases walking.path with ⟨_, _, path⟩
    exact path.eq_root parent unmatched
  refine ⟨isRoot, ?_⟩
  constructor
  · exact walking.labelled.connect (walking.parent_tight row column parent)
  · exact walking.displaced.connect_free unmatched
  · exact fun other => (walking.labelsWithin.row other).1
  · intro other
    rw [mem_take_finRange_iff, columnOf_connect, isRoot]
    split
    · rename_i same
      simp [same]
    · rename_i different
      rw [walking.matched_iff]
      have := Fin.val_ne_of_ne different
      omega

end Walk

/-! ## All stages -/

/-- What every step from one stage to the next preserves. -/
def Stage.Sound (weight : Fin rows → Fin columns → Int) (limit : Nat) :
    Stage rows columns → Prop
  | settled added state =>
      Added weight ((List.finRange rows).take added) state ∧ state.LabelsWithin limit
  | growing root selected state tree => Searching weight limit root selected state tree
  | joined root selected state tree column => Joined weight limit root selected state tree column
  | walking root selected walked state tree column =>
      Walking weight limit root selected walked state tree column

section Run

variable (bounded : WeightsWithin limit weight) (fits : rows ≤ columns)

include bounded

theorem sound_start : (Stage.settled 0 (start weight)).Sound weight limit :=
  ⟨added_start weight, labelsWithin_start bounded⟩

include fits

theorem Stage.Sound.next {stage later : Stage rows columns} (sound : stage.Sound weight limit)
    (step : stage.next? weight = some later) : later.Sound weight limit := by
  cases stage with
  | settled added state =>
      rw [Stage.next?] at step
      split at step
      · rename_i available
        cases step
        exact Searching.plant sound.1 (fun row => mem_take_finRange_iff) sound.2
      · cases step
  | growing root selected state tree =>
      rcases Option.map_eq_some_iff.mp step with ⟨column, chosen, rfl⟩
      exact .join sound chosen
  | joined root selected state tree column =>
      cases sound with
      | join searching chosen =>
          rw [Stage.next?] at step
          split at step
          · rename_i free
            cases step
            rw [rowOf_growColumn] at free
            exact searching.reach chosen bounded fits free
          · rename_i row owner
            cases step
            rw [rowOf_growColumn] at owner
            exact searching.addRow chosen owner
  | walking root selected walked state tree column =>
      rcases Option.map_eq_some_iff.mp step with ⟨row, parent, rfl⟩
      split
      · rename_i unmatched
        exact ⟨(Walking.finish sound parent unmatched).2, sound.labelsWithin.row,
          sound.labelsWithin.column⟩
      · rename_i former matched
        exact Walking.onward sound parent matched

theorem sound_of_leads {stage : Stage rows columns}
    (leads : Leads weight (.settled 0 (start weight)) stage) : stage.Sound weight limit :=
  leads.preserves (fun _ _ sound step => sound.next bounded fits step) (sound_start bounded)

end Run

end Solver

end Resemblance
