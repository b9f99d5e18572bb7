import Resemblance.Proofs.Assignment.Optimal
import Resemblance.Proofs.Assignment.Range

/-!
# The solver computes in range

For the optimal assignment the solver gets a matrix of scores in millionths, turned so that it is
not taller than wide. So every row finds a free column, and no number that comes up on the way is
below zero or above two millions; machine words of 64 bits are far from overflowing.
-/

namespace Resemblance

namespace Solver

variable {rows columns : Nat} {weight : Fin rows → Fin columns → Int} {limit : Nat}
  {state : State rows columns}

/-! ## What a step computes -/

/-- The results of the sums and differences by which a stage is turned into the next one. -/
inductive Stage.Computes (weight : Fin rows → Fin columns → Int) :
    Stage rows columns → Int → Prop where
  /-- For the slack of a root, its label is added to the label of a column. -/
  | rootLabels {state : State rows columns} (root : Fin rows) (column : Fin columns) :
      Computes weight (.settled root.val state)
        (state.rowLabel.get root + state.columnLabel.get column)
  | rootSlack {state : State rows columns} (root : Fin rows) (column : Fin columns) :
      Computes weight (.settled root.val state) (state.slackAt weight root column)
  /-- The label of a row of the tree is lowered by the slack of the column selected. -/
  | rowLabel {root row : Fin rows} {selected : Nat} {state : State rows columns}
      {tree : Tree rows columns} {column : Fin columns} (chosen : tree.nextColumn? = some column)
      (reached : tree.reached.get row = true) :
      Computes weight (.growing root selected state tree)
        (state.rowLabel.get row - tree.slack.get column)
  /-- The label of a column of the tree is raised by it. -/
  | columnLabel {root : Fin rows} {selected : Nat} {state : State rows columns}
      {tree : Tree rows columns} {column other : Fin columns}
      (chosen : tree.nextColumn? = some column) (inside : (tree.parent?.get other).isSome) :
      Computes weight (.growing root selected state tree)
        (state.columnLabel.get other + tree.slack.get column)
  /-- It is taken out of the slack of a column outside the tree. -/
  | slackLeft {root : Fin rows} {selected : Nat} {state : State rows columns}
      {tree : Tree rows columns} {column other : Fin columns}
      (chosen : tree.nextColumn? = some column) (outside : tree.parent?.get other = none) :
      Computes weight (.growing root selected state tree)
        (tree.slack.get other - tree.slack.get column)
  /-- For the slack of a row that joins the tree, its label is added to the label of a column. -/
  | joinedLabels {root row : Fin rows} {selected : Nat} {state : State rows columns}
      {tree : Tree rows columns} {column other : Fin columns}
      (owner : state.rowOf.get column = some row) (outside : tree.parent?.get other = none) :
      Computes weight (.joined root selected state tree column)
        (state.rowLabel.get row + state.columnLabel.get other)
  | joinedSlack {root row : Fin rows} {selected : Nat} {state : State rows columns}
      {tree : Tree rows columns} {column other : Fin columns}
      (owner : state.rowOf.get column = some row) (outside : tree.parent?.get other = none) :
      Computes weight (.joined root selected state tree column) (state.slackAt weight row other)

/-! ## What holds of labels and slack -/

/-- Labels and slack are in order and in range. -/
structure State.InRange (weight : Fin rows → Fin columns → Int) (limit : Nat)
    (state : State rows columns) : Prop where
  labels : state.LabelsWithin limit
  /-- The labels of a crossing have at least its weight together. -/
  dominates : ∀ (row : Fin rows) (column : Fin columns),
    weight row column ≤ state.rowLabel.get row + state.columnLabel.get column
  /-- At matched crossings they have just the weight, whichever side names the match. -/
  tight : ∀ (row : Fin rows) (column : Fin columns),
    state.columnOf.get row = some column ∨ state.rowOf.get column = some row →
      state.rowLabel.get row + state.columnLabel.get column = weight row column
  free_zero : ∀ column : Fin columns, state.rowOf.get column = none →
    state.columnLabel.get column = 0
  slack : ∀ (row : Fin rows) (column : Fin columns),
    0 ≤ state.slackAt weight row column ∧ state.slackAt weight row column ≤ 2 * limit

theorem Labelled.inRange (labelled : Labelled weight state)
    (bounded : WeightsWithin limit weight) (labels : state.LabelsWithin limit)
    (columnOf_tight : ∀ (row : Fin rows) (column : Fin columns),
      state.columnOf.get row = some column → state.slackAt weight row column = 0) :
    state.InRange weight limit where
  labels := labels
  dominates := by
    intro row column
    have slack := labelled.slack_nonneg row column
    rw [State.slackAt] at slack
    omega
  tight := by
    intro row column matched
    have slack : state.slackAt weight row column = 0 := by
      rcases matched with columnOf | rowOf
      · exact columnOf_tight row column columnOf
      · exact labelled.tight row column rowOf
    rw [State.slackAt] at slack
    omega
  free_zero := labelled.free_zero
  slack := fun row column =>
    ⟨labelled.slack_nonneg row column, labels.slackAt_le bounded row column⟩

theorem Labelled.inRange_of_inverse (labelled : Labelled weight state) (inverse : state.Inverse)
    (bounded : WeightsWithin limit weight) (labels : state.LabelsWithin limit) :
    state.InRange weight limit :=
  labelled.inRange bounded labels fun row column matched =>
    labelled.tight row column ((inverse row column).mp matched)

/-- The labels of a crossing have at most twice the limit together. -/
theorem State.LabelsWithin.add_le (within : state.LabelsWithin limit) (row : Fin rows)
    (column : Fin columns) :
    0 ≤ state.rowLabel.get row + state.columnLabel.get column ∧
      state.rowLabel.get row + state.columnLabel.get column ≤ 2 * limit := by
  have rowWithin := within.row row
  have columnWithin := within.column column
  omega

section Sound

variable (bounded : WeightsWithin limit weight) (fits : rows ≤ columns)
  {stage : Stage rows columns} (sound : stage.Sound weight limit)

include bounded fits sound

theorem Stage.Sound.inRange : stage.state.InRange weight limit := by
  cases stage with
  | settled added state =>
      exact sound.1.labelled.inRange_of_inverse sound.1.inverse bounded sound.2
  | growing root selected state tree =>
      exact sound.growing.labelled.inRange_of_inverse sound.growing.inverse bounded
        (sound.labelsWithin bounded fits)
  | joined root selected state tree column =>
      cases sound with
      | join searching chosen =>
          exact (searching.labelled_join chosen).inRange_of_inverse
            searching.growing.inverse_growColumn bounded
            (searching.labelsWithin_join chosen bounded fits)
  | walking root selected walked state tree column =>
      exact sound.labelled.inRange bounded sound.labelsWithin fun row column => sound.tight

theorem Stage.Sound.slackWithin {tree : Tree rows columns} (current : stage.tree? = some tree) :
    tree.SlackWithin limit := by
  cases stage with
  | settled added state => cases current
  | growing root selected state tree =>
      cases current
      exact sound.slackWithin bounded fits
  | joined root selected state tree column =>
      cases current
      cases sound with
      | join searching chosen => exact searching.slackWithin_join chosen bounded fits
  | walking root selected walked state tree column =>
      cases current
      exact sound.slackWithin

/-- What is computed is a label or a slack of the next stage, or the sum of two labels. -/
theorem Stage.Sound.computes {number : Int} (computes : stage.Computes weight number) :
    0 ≤ number ∧ number ≤ 2 * limit := by
  have inRange := sound.inRange bounded fits
  cases computes with
  | rootLabels root column => exact inRange.labels.add_le root column
  | rootSlack root column => exact inRange.slack root column
  | @rowLabel _ row _ state tree column chosen reached =>
      have within := (sound.labelsWithin_join chosen bounded fits).row row
      rw [rowLabel_growColumn (sound.slack_nonneg chosen), if_pos reached] at within
      omega
  | @columnLabel _ _ state tree column other chosen inside =>
      have within := (sound.labelsWithin_join chosen bounded fits).column other
      rw [columnLabel_growColumn (sound.slack_nonneg chosen), if_pos inside] at within
      omega
  | @slackLeft _ _ state tree column other chosen outside =>
      have least := Tree.slack_le_of_nextColumn? chosen other outside
      have nonneg := sound.slack_nonneg chosen
      have within := sound.slackWithin bounded fits rfl other
      omega
  | joinedLabels owner outside => exact inRange.labels.add_le _ _
  | joinedSlack owner outside => exact inRange.slack _ _

end Sound

/-! ## The whole computation -/

/-- The solver gets through all rows of a matrix and stays in range on the way. -/
structure IsSafe (weight : Fin rows → Fin columns → Int) (limit : Nat) : Prop where
  /-- The computation ends, with the result of the solver. -/
  finishes : Leads weight (.settled 0 (start weight)) (.settled rows (solve weight))
  adds : ∀ root : Fin rows, ∃ passage : Passage rows columns,
    passage.Adds weight root (stateAfter weight root.val) (stateAfter weight (root.val + 1))
  inRange : ∀ stage, Leads weight (.settled 0 (start weight)) stage →
    stage.state.InRange weight limit
  /-- The slack that the tree of a row notes is in range. -/
  noted : ∀ stage, Leads weight (.settled 0 (start weight)) stage →
    ∀ tree, stage.tree? = some tree → tree.SlackWithin limit
  /-- No operation leaves the range of signed 64-bit numbers. -/
  noOverflow : ∀ stage, Leads weight (.settled 0 (start weight)) stage →
    ∀ number, stage.Computes weight number →
      Int64.minValue.toInt ≤ number ∧ number ≤ Int64.maxValue.toInt

theorem isSafe (bounded : WeightsWithin limit weight) (fits : rows ≤ columns)
    (small : (2 * limit : Int) ≤ Int64.maxValue.toInt) : IsSafe weight limit where
  finishes := leads_solve (fun row column => (bounded row column).1) fits
  adds := exists_passage_stateAfter (fun row column => (bounded row column).1) fits
  inRange := fun _ leads => (sound_of_leads bounded fits leads).inRange bounded fits
  noted := fun _ leads _ current =>
    (sound_of_leads bounded fits leads).slackWithin bounded fits current
  noOverflow := by
    intro stage leads number computes
    have within := (sound_of_leads bounded fits leads).computes bounded fits computes
    have lower : Int64.minValue.toInt ≤ 0 := by decide
    omega

end Solver

namespace Assignment

variable {weights : WeightMatrix} {applicationCount : Nat}

/--
The matrix that the solver gets, and how the numbers of its rows and columns are turned into
positions in the library and in the application: the smaller collection has the rows.
-/
inductive Handover (weights : WeightMatrix) (applicationCount : Nat) :
    {rows columns : Nat} → (Fin rows → Fin columns → Int) → (Nat × Nat → Nat × Nat) → Prop where
  | upright (wide : weights.length ≤ applicationCount) :
      Handover weights applicationCount
        (fun (library : Fin weights.length) (application : Fin applicationCount) =>
          fixedEntry weights library.val application.val) id
  | turned (tall : applicationCount < weights.length) :
      Handover weights applicationCount
        (fun (application : Fin applicationCount) (library : Fin weights.length) =>
          fixedEntry weights library.val application.val) Prod.swap

theorem weightsWithin_fixedEntry (weights : WeightMatrix) (library application : Nat) :
    0 ≤ fixedEntry weights library application ∧
      fixedEntry weights library application ≤ fixedScale :=
  ⟨fixedEntry_nonneg weights library application, Int.ofNat_le.mpr (toFixed_le _)⟩

theorem Handover.weightsWithin {rows columns : Nat} {weight : Fin rows → Fin columns → Int}
    {orient : Nat × Nat → Nat × Nat} (handover : Handover weights applicationCount weight orient) :
    Solver.WeightsWithin fixedScale weight := by
  cases handover with
  | upright wide =>
      exact fun library application => weightsWithin_fixedEntry weights library.val application.val
  | turned tall =>
      exact fun application library => weightsWithin_fixedEntry weights library.val application.val

/-- The pairs of the assignment are those of the solver, turned back. -/
theorem Handover.pairedPositions_eq {rows columns : Nat} {weight : Fin rows → Fin columns → Int}
    {orient : Nat × Nat → Nat × Nat} (handover : Handover weights applicationCount weight orient) :
    pairedPositions weights applicationCount =
      ((Solver.solve weight).crossings.map numbers).map orient := by
  cases handover with
  | upright wide => rw [pairedPositions, if_pos wide, solvedPairs_eq, List.map_id]
  | turned tall => rw [pairedPositions, if_neg (Nat.not_le.mpr tall), solvedPairs_eq]

theorem exists_handover (library_ne : weights ≠ []) (application_ne : applicationCount ≠ 0) :
    ∃ (rows columns : Nat) (weight : Fin rows → Fin columns → Int)
      (orient : Nat × Nat → Nat × Nat),
      Handover weights applicationCount weight orient ∧ 0 < rows ∧ rows ≤ columns := by
  rcases Nat.lt_or_ge applicationCount weights.length with tall | wide
  · exact ⟨_, _, _, _, .turned tall, Nat.pos_of_ne_zero application_ne, tall.le⟩
  · exact ⟨_, _, _, _, .upright wide, List.length_pos_iff.mpr library_ne, wide⟩

/--
For every matrix of scores that is not empty, the optimal assignment comes from a matrix of whole
numbers that is not taller than wide, and the solver computes in range with it: up to a million for
labels and up to two millions for slack.
-/
theorem optimal_isSafe (weights : WeightMatrix) (applicationCount : Nat)
    (rectangular : ∀ row ∈ weights, row.length = applicationCount) (library_ne : weights ≠ [])
    (application_ne : applicationCount ≠ 0) :
    ∃ (rows columns : Nat) (weight : Fin rows → Fin columns → Int)
      (orient : Nat × Nat → Nat × Nat),
      Handover weights applicationCount weight orient ∧ 0 < rows ∧ rows ≤ columns ∧
      optimal weights applicationCount =
        .ok (ofPairs
          (positivePairs weights (((Solver.solve weight).crossings.map numbers).map orient))
          weights.length applicationCount) ∧
      Solver.IsSafe weight 1000000 := by
  rcases exists_handover library_ne application_ne with
    ⟨rows, columns, weight, orient, handover, rows_pos, fits⟩
  refine ⟨rows, columns, weight, orient, handover, rows_pos, fits, ?_, ?_⟩
  · rw [optimal_eq rectangular, handover.pairedPositions_eq]
  · exact Solver.isSafe handover.weightsWithin fits (by decide)

/-- Three library elements for two application elements, and a score that is no number. -/
theorem optimal_isSafe_tall :
    (∀ row ∈ ([[2, 0.8], [0.8, 0 / 0], [-1, 0.4]] : WeightMatrix), row.length = 2) ∧
      ([[2, 0.8], [0.8, 0 / 0], [-1, 0.4]] : WeightMatrix) ≠ [] ∧
      Solver.IsSafe (fun (application : Fin 2) (library : Fin 3) =>
        fixedEntry [[2, 0.8], [0.8, 0 / 0], [-1, 0.4]] library.val application.val) 1000000 := by
  have rectangular : ∀ row ∈ ([[2, 0.8], [0.8, 0 / 0], [-1, 0.4]] : WeightMatrix),
      row.length = 2 := by
    decide
  have library_ne : ([[2, 0.8], [0.8, 0 / 0], [-1, 0.4]] : WeightMatrix) ≠ [] :=
    List.cons_ne_nil _ _
  rcases optimal_isSafe [[2, 0.8], [0.8, 0 / 0], [-1, 0.4]] 2 rectangular library_ne (by decide)
    with ⟨rows, columns, weight, orient, handover, _, _, _, isSafe⟩
  refine ⟨rectangular, library_ne, ?_⟩
  cases handover with
  | upright wide => cases (by decide : ¬3 ≤ 2) wide
  | turned tall => exact isSafe

end Assignment

end Resemblance
