import Resemblance.Proofs.Assignment.Growth

/-!
# The solver finds a maximum

Adding a row keeps the labels in order and the rows matched that were matched, and matches the new
one. It also keeps the row labels from falling below zero: as long as rows are added there is a free
column, its label is zero, and there the row labels alone exceed the weights.

Labels in order bound every matching, as no row and no column is used twice. A matching of all rows
over crossings without slack reaches the bound.
-/

namespace Resemblance

namespace Solver

variable {rows columns : Nat} {weight : Fin rows → Fin columns → Int}
  {state : State rows columns}

/-! ## The start -/

/-- A maximum that is taken step by step is at least its start and at least every item. -/
theorem le_foldl_max {Item : Type} (value : Item → Int) (items : List Item) (greatest : Int) :
    greatest ≤ items.foldl (fun greatest item => max greatest (value item)) greatest ∧
      ∀ item ∈ items,
        value item ≤ items.foldl (fun greatest item => max greatest (value item)) greatest := by
  induction items generalizing greatest with
  | nil =>
      refine ⟨Int.le_refl greatest, ?_⟩
      intro item member
      cases member
  | cons first items ih =>
      rw [List.foldl_cons]
      rcases ih (max greatest (value first)) with ⟨fromStart, fromItems⟩
      refine ⟨by omega, ?_⟩
      intro item member
      rcases List.mem_cons.mp member with rfl | later
      · omega
      · exact fromItems item later

theorem le_rowMaximum (weight : Fin rows → Fin columns → Int) (row : Fin rows)
    (column : Fin columns) : weight row column ≤ rowMaximum weight row :=
  (le_foldl_max (weight row) (List.finRange columns) 0).2 column (List.mem_finRange column)

theorem rowMaximum_nonneg (weight : Fin rows → Fin columns → Int) (row : Fin rows) :
    0 ≤ rowMaximum weight row :=
  (le_foldl_max (weight row) (List.finRange columns) 0).1

/-- What holds after some rows were added. -/
structure Added (weight : Fin rows → Fin columns → Int) (added : List (Fin rows))
    (state : State rows columns) : Prop where
  labelled : Labelled weight state
  inverse : state.Inverse
  row_nonneg : ∀ row : Fin rows, 0 ≤ state.rowLabel.get row
  /-- The added rows are matched, and no others are. -/
  matched_iff : ∀ row : Fin rows, (state.columnOf.get row).isSome ↔ row ∈ added

theorem added_start (weight : Fin rows → Fin columns → Int) : Added weight [] (start weight) := by
  constructor
  · constructor
    · intro row column
      have greatest := le_rowMaximum weight row column
      simp only [State.slackAt, start, Vector.get_ofFn]
      omega
    · intro row column matched
      simp [start] at matched
    · intro column
      simp [start]
    · intro column _
      simp [start]
  · intro row column
    simp [start]
  · intro row
    simp only [start, Vector.get_ofFn]
    exact rowMaximum_nonneg weight row
  · intro row
    simp [start]

/-! ## Adding a row -/

theorem State.matchedRows_lt {root : Fin rows} (free : state.columnOf.get root = none) :
    state.matchedRows < rows := by
  have fewer : state.matchedRows < Fintype.card (Fin rows) := by
    apply Finset.card_lt_univ_of_notMem
    rw [Finset.mem_filter, free]
    rintro ⟨_, ⟨⟩⟩
  rw [Fintype.card_fin] at fewer
  exact fewer

/-- A free column has label zero, so every row label is at least the weight there. -/
theorem Labelled.row_nonneg (labelled : Labelled weight state)
    (weight_nonneg : ∀ row column, 0 ≤ weight row column) {column : Fin columns}
    (free : state.rowOf.get column = none) (row : Fin rows) : 0 ≤ state.rowLabel.get row := by
  have slack := labelled.slack_nonneg row column
  have atZero := labelled.free_zero column free
  have positive := weight_nonneg row column
  rw [State.slackAt] at slack
  omega

theorem Added.addRow {added : List (Fin rows)} (before : Added weight added state)
    (weight_nonneg : ∀ row column, 0 ≤ weight row column) (fits : rows ≤ columns)
    {root : Fin rows} (fresh : root ∉ added) :
    Added weight (added ++ [root]) (addRow weight state root) := by
  have free : state.columnOf.get root = none := by
    rw [← Option.not_isSome_iff_eq_none, before.matched_iff]
    exact fresh
  have fewer := State.matchedRows_lt free
  have growing := growing_plant before.labelled before.inverse free
  rcases growing.reaches (by omega) (by omega : state.matchedRows + 1 ≤ _ + columns) with
    ⟨result, tree, column, grown, reaches⟩
  rcases reaches.path with ⟨length, short, path⟩
  have augmented := augmented_augment reaches.labelled (reaches.inverse.displaced reaches.free)
    path reaches.parent_tight (by omega : length ≤ rows)
  rw [Solver.addRow, grown]
  constructor
  · exact augmented.labelled
  · exact augmented.inverse
  · intro row
    simp only [augmented.rowLabel_eq]
    exact reaches.labelled.row_nonneg weight_nonneg reaches.free row
  · intro row
    simp only [augmented.matched_iff, reaches.columnOf_eq, before.matched_iff, List.mem_append,
      List.mem_singleton]
    exact or_comm

theorem Added.addRows {added : List (Fin rows)} (before : Added weight added state)
    (weight_nonneg : ∀ row column, 0 ≤ weight row column) (fits : rows ≤ columns)
    (others : List (Fin rows)) (fresh : (added ++ others).Nodup) :
    Added weight (added ++ others) (others.foldl (Solver.addRow weight) state) := by
  induction others generalizing added state with
  | nil =>
      rw [List.append_nil]
      exact before
  | cons root others ih =>
      have notAdded : root ∉ added := by
        intro already
        exact (List.nodup_append.mp fresh).2.2 root already root List.mem_cons_self rfl
      rw [List.append_cons] at fresh ⊢
      exact ih (before.addRow weight_nonneg fits notAdded) fresh

theorem added_solve (weight : Fin rows → Fin columns → Int)
    (weight_nonneg : ∀ row column, 0 ≤ weight row column) (fits : rows ≤ columns) :
    Added weight (List.finRange rows) (solve weight) :=
  (added_start weight).addRows weight_nonneg fits (List.finRange rows) (List.nodup_finRange rows)

/-! ## Duality -/

/-- The crossings that are matched, in the order of the rows. -/
def State.crossings (state : State rows columns) : List (Fin rows × Fin columns) :=
  (List.finRange rows).filterMap fun row => (state.columnOf.get row).map fun column => (row, column)

/-- The sum of all labels. -/
def State.labelSum (state : State rows columns) : Int :=
  (∑ row : Fin rows, state.rowLabel.get row) + ∑ column : Fin columns, state.columnLabel.get column

theorem mem_crossings {row : Fin rows} {column : Fin columns} :
    (row, column) ∈ state.crossings ↔ state.columnOf.get row = some column := by
  simp only [State.crossings, List.mem_filterMap, List.mem_finRange, true_and,
    Option.map_eq_some_iff, Prod.mk.injEq]
  constructor
  · rintro ⟨_, _, matched, rfl, rfl⟩
    exact matched
  · intro matched
    exact ⟨row, column, matched, rfl, rfl⟩

/-- The weights of some crossings are the labels there, less the slack. -/
theorem sum_weight_eq (state : State rows columns) (crossings : List (Fin rows × Fin columns)) :
    (crossings.map fun crossing => weight crossing.1 crossing.2).sum =
      ((crossings.map Prod.fst).map state.rowLabel.get).sum +
        ((crossings.map Prod.snd).map state.columnLabel.get).sum -
        (crossings.map fun crossing => state.slackAt weight crossing.1 crossing.2).sum := by
  induction crossings with
  | nil => rfl
  | cons crossing crossings ih =>
      simp only [List.map_cons, List.sum_cons, ih, State.slackAt]
      omega

theorem sum_le_univ_of_nodup {count : Nat} {items : List (Fin count)} (nodup : items.Nodup)
    {value : Fin count → Int} (nonneg : ∀ item, 0 ≤ value item) :
    (items.map value).sum ≤ ∑ item, value item := by
  rw [← List.sum_toFinset value nodup]
  exact Finset.sum_le_univ_sum_of_nonneg nonneg

theorem sum_eq_univ_of_nodup {count : Nat} {items : List (Fin count)} (nodup : items.Nodup)
    {value : Fin count → Int} (rest : ∀ item, item ∉ items → value item = 0) :
    (items.map value).sum = ∑ item, value item := by
  rw [← List.sum_toFinset value nodup]
  apply Finset.sum_subset (Finset.subset_univ _)
  intro item _ notMem
  exact rest item (mt List.mem_toFinset.mpr notMem)

/-- No matching weighs more than the labels of an ordered state. -/
theorem Labelled.sum_weight_le (labelled : Labelled weight state)
    (row_nonneg : ∀ row : Fin rows, 0 ≤ state.rowLabel.get row)
    {crossings : List (Fin rows × Fin columns)} (rows_nodup : (crossings.map Prod.fst).Nodup)
    (columns_nodup : (crossings.map Prod.snd).Nodup) :
    (crossings.map fun crossing => weight crossing.1 crossing.2).sum ≤ state.labelSum := by
  have slack : 0 ≤
      (crossings.map fun crossing => state.slackAt weight crossing.1 crossing.2).sum := by
    apply List.sum_nonneg
    intro value member
    rcases List.mem_map.mp member with ⟨crossing, _, rfl⟩
    exact labelled.slack_nonneg _ _
  have rowPart := sum_le_univ_of_nodup rows_nodup row_nonneg
  have columnPart := sum_le_univ_of_nodup columns_nodup labelled.column_nonneg
  rw [sum_weight_eq state, State.labelSum]
  omega

section Crossings

variable (inverse : state.Inverse)

theorem rows_nodup_crossings (state : State rows columns) :
    (state.crossings.map Prod.fst).Nodup := by
  have rowsOnly : state.crossings.map Prod.fst =
      (List.finRange rows).filter fun row => (state.columnOf.get row).isSome := by
    rw [State.crossings, List.map_filterMap, ← List.filterMap_eq_filter]
    apply List.filterMap_congr
    intro row _
    cases matched : state.columnOf.get row <;> simp [Option.guard, matched]
  rw [rowsOnly]
  exact (List.nodup_finRange rows).filter _

include inverse

theorem columns_nodup_crossings : (state.crossings.map Prod.snd).Nodup := by
  have crossings_nodup := List.Nodup.of_map Prod.fst (rows_nodup_crossings state)
  apply List.Nodup.map_on _ crossings_nodup
  rintro ⟨row, column⟩ member ⟨other, _⟩ otherMember rfl
  have owner := (inverse row column).mp (mem_crossings.mp member)
  have otherOwner := (inverse other column).mp (mem_crossings.mp otherMember)
  rw [owner, Option.some.injEq] at otherOwner
  rw [otherOwner]

/-- The matching of an ordered state weighs as much as its labels once all rows are matched. -/
theorem Labelled.sum_weight_crossings (labelled : Labelled weight state)
    (complete : ∀ row : Fin rows, (state.columnOf.get row).isSome) :
    (state.crossings.map fun crossing => weight crossing.1 crossing.2).sum = state.labelSum := by
  have slack :
      (state.crossings.map fun crossing => state.slackAt weight crossing.1 crossing.2).sum = 0 := by
    apply List.sum_eq_zero
    intro value member
    rcases List.mem_map.mp member with ⟨⟨row, column⟩, crossing, rfl⟩
    exact labelled.tight row column ((inverse row column).mp (mem_crossings.mp crossing))
  have rowPart : ((state.crossings.map Prod.fst).map state.rowLabel.get).sum =
      ∑ row : Fin rows, state.rowLabel.get row := by
    apply sum_eq_univ_of_nodup (rows_nodup_crossings state)
    intro row absent
    rcases Option.isSome_iff_exists.mp (complete row) with ⟨column, matched⟩
    exact absurd (List.mem_map_of_mem (f := Prod.fst) (mem_crossings.mpr matched)) absent
  have columnPart :
      ((state.crossings.map Prod.snd).map state.columnLabel.get).sum =
        ∑ column : Fin columns, state.columnLabel.get column := by
    apply sum_eq_univ_of_nodup (columns_nodup_crossings inverse)
    intro column absent
    apply labelled.free_zero
    by_contra owned
    rcases Option.ne_none_iff_exists'.mp owned with ⟨row, owner⟩
    have crossing := mem_crossings.mpr ((inverse row column).mpr owner)
    exact absent (List.mem_map_of_mem crossing)
  rw [sum_weight_eq state, slack, rowPart, columnPart, State.labelSum, Int.sub_zero]

end Crossings

end Solver

end Resemblance
