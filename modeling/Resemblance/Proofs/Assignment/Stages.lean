import Resemblance.Proofs.Assignment.Solver

/-!
# The stages of the solver

The solver passes through stages: some rows are added, the tree of the next row grows, a column
joins the tree, and columns are matched one after the other on the way back to the root. Each stage
determines the next one. The functions of the solver jump over stages; here every jump is taken
apart, so that what holds of all stages holds throughout the computation.
-/

namespace Resemblance

namespace Solver

variable {rows columns : Nat}

/-- Where the computation stands. -/
inductive Stage (rows columns : Nat) where
  /-- Some rows were added, and the next one is to be added. -/
  | settled (added : Nat) (state : State rows columns)
  /-- The tree of a row is to grow, after some columns were selected for it. -/
  | growing (root : Fin rows) (selected : Nat) (state : State rows columns)
      (tree : Tree rows columns)
  /-- A column was selected and has joined the tree. -/
  | joined (root : Fin rows) (selected : Nat) (state : State rows columns)
      (tree : Tree rows columns) (column : Fin columns)
  /-- A column is to be matched to the row from which the tree reached it, after others were. -/
  | walking (root : Fin rows) (selected walked : Nat) (state : State rows columns)
      (tree : Tree rows columns) (column : Fin columns)

namespace Stage

def state : Stage rows columns → State rows columns
  | settled _ state => state
  | growing _ _ state _ => state
  | joined _ _ state _ _ => state
  | walking _ _ _ state _ _ => state

/-- The tree of the row that is being added. -/
def tree? : Stage rows columns → Option (Tree rows columns)
  | settled _ _ => none
  | growing _ _ _ tree => some tree
  | joined _ _ _ tree _ => some tree
  | walking _ _ _ _ tree _ => some tree

/-- The stage that follows, if the computation is not over. -/
def next? (weight : Fin rows → Fin columns → Int) :
    Stage rows columns → Option (Stage rows columns)
  | settled added state =>
      if available : added < rows then
        some (growing ⟨added, available⟩ 0 state (plant weight state ⟨added, available⟩))
      else none
  | growing root selected state tree =>
      tree.nextColumn?.map fun column =>
        joined root (selected + 1) (growColumn state tree column).1
          (growColumn state tree column).2 column
  | joined root selected state tree column =>
      match state.rowOf.get column with
      | none => some (walking root selected 0 state tree column)
      | some row => some (growing root selected state (tree.addRow weight state row))
  | walking root selected walked state tree column =>
      (tree.parent?.get column).map fun row =>
        match state.columnOf.get row with
        | none => settled (root.val + 1) (state.connect row column)
        | some former => walking root selected (walked + 1) (state.connect row column) tree former

end Stage

variable {weight : Fin rows → Fin columns → Int} {root : Fin rows}
  {state result : State rows columns} {tree larger : Tree rows columns} {column : Fin columns}

/-- The computation gets from one stage to another. -/
def Leads (weight : Fin rows → Fin columns → Int) :
    Stage rows columns → Stage rows columns → Prop :=
  Relation.ReflTransGen fun stage later => stage.next? weight = some later

/-- What every step preserves holds at the end if it holds at the beginning. -/
theorem Leads.preserves {stage last : Stage rows columns} {property : Stage rows columns → Prop}
    (step : ∀ stage later : Stage rows columns, property stage →
      stage.next? weight = some later → property later)
    (leads : Leads weight stage last) (holds : property stage) : property last := by
  induction leads with
  | refl => exact holds
  | tail _ next ih => exact step _ _ ih next

/-! ## The search -/

/-- A search succeeds if the next column is free, or has a row behind which the search succeeds. -/
theorem grow_succ_eq_some_iff {steps : Nat} :
    grow weight state tree (steps + 1) = some (result, larger, column) ↔
      ∃ next, tree.nextColumn? = some next ∧
        ((state.rowOf.get next = none ∧ growColumn state tree next = (result, larger) ∧
            next = column) ∨
          ∃ row, state.rowOf.get next = some row ∧
            grow weight (growColumn state tree next).1
              ((growColumn state tree next).2.addRow weight (growColumn state tree next).1 row)
              steps = some (result, larger, column)) := by
  rw [grow_succ]
  cases chosen : tree.nextColumn? with
  | none => simp
  | some next =>
      simp only [rowOf_growColumn]
      cases owner : state.rowOf.get next <;> simp [Prod.ext_iff, owner, and_assoc]

/-- A search that succeeds does so with any greater number of steps. -/
theorem grow_of_le {steps more : Nat} (atMost : steps ≤ more)
    (found : grow weight state tree steps = some (result, larger, column)) :
    grow weight state tree more = some (result, larger, column) := by
  induction steps generalizing state tree more with
  | zero => cases found
  | succ steps ih =>
      cases more with
      | zero => cases atMost
      | succ more =>
          rw [grow_succ_eq_some_iff] at found ⊢
          rcases found with ⟨next, chosen, free | ⟨row, owner, rest⟩⟩
          · exact ⟨next, chosen, Or.inl free⟩
          · exact ⟨next, chosen, Or.inr ⟨row, owner, ih (Nat.le_of_succ_le_succ atMost) rest⟩⟩

/-- Growing a tree passes through the stages up to a free column, with a selection in each step. -/
theorem leads_of_grow_eq_some {steps : Nat} (root : Fin rows) (selected : Nat)
    (found : grow weight state tree steps = some (result, larger, column)) :
    ∃ total, total ≤ selected + steps ∧
      Leads weight (.growing root selected state tree)
        (.walking root total 0 result larger column) ∧
      result.rowOf.get column = none := by
  induction steps generalizing state tree selected with
  | zero => cases found
  | succ steps ih =>
      rcases grow_succ_eq_some_iff.mp found with ⟨next, chosen, onward⟩
      have join : (Stage.growing root selected state tree).next? weight =
          some (.joined root (selected + 1) (growColumn state tree next).1
            (growColumn state tree next).2 next) := by
        rw [Stage.next?, chosen, Option.map_some]
      rw [← rowOf_growColumn state tree next] at onward
      rcases onward with ⟨free, grown, rfl⟩ | ⟨row, owner, rest⟩
      · rw [grown] at join free
        refine ⟨selected + 1, by omega, .head join (.head ?_ (.refl)), free⟩
        simp only [Stage.next?, free]
      · rcases ih (selected + 1) rest with ⟨total, atMost, leads, free⟩
        refine ⟨total, by omega, .head join (.head ?_ leads), free⟩
        simp only [Stage.next?, owner]

/-! ## The way back -/

/-- Augmenting passes through the stages along a path, and the root comes last. -/
theorem leads_augment (weight : Fin rows → Fin columns → Int) {length steps : Nat}
    (selected walked : Nat) (path : Path state tree root column length) (enough : length ≤ steps) :
    ∃ (total : Nat) (final : State rows columns) (last : Fin columns),
      total + 1 = walked + length ∧
      Leads weight (.walking root selected walked state tree column)
        (.walking root selected total final tree last) ∧
      tree.parent?.get last = some root ∧
      (Stage.walking root selected total final tree last).next? weight =
        some (.settled (root.val + 1) (augment state tree column steps)) := by
  induction steps generalizing state column length walked with
  | zero =>
      cases path <;> omega
  | succ steps ih =>
      cases path with
      | last parent free =>
          refine ⟨walked, state, column, rfl, .refl, parent, ?_⟩
          simp only [Stage.next?, augment_succ, parent, free, Option.map_some]
      | @step _ former row length parent matched rest =>
          have step : (Stage.walking root selected walked state tree column).next? weight =
              some (.walking root selected (walked + 1) (state.connect row column) tree
                former) := by
            simp only [Stage.next?, parent, matched, Option.map_some]
          have remaining : Path (state.connect row column) tree root former length :=
            rest.connect matched rest (Nat.le_refl length)
          rcases ih (walked + 1) remaining (by omega) with
            ⟨total, final, last, count, leads, onward⟩
          refine ⟨total, final, last, by omega, .head step leads, ?_⟩
          simpa only [augment_succ, parent, matched] using onward

/-! ## Adding a row -/

/-- What a computation passes when it adds a row. -/
structure Passage (rows columns : Nat) where
  /-- How many columns are selected until a free one is reached. -/
  selected : Nat
  /-- The state in which the free column is reached. -/
  reached : State rows columns
  tree : Tree rows columns
  /-- The free column. -/
  column : Fin columns
  /-- How many rows are rematched before the root is matched. -/
  walked : Nat
  /-- The state in which only the root is left to be matched. -/
  rematched : State rows columns
  /-- The column that the root gets. -/
  last : Fin columns

/-- A passage adds a row to those before it. -/
structure Passage.Adds (passage : Passage rows columns) (weight : Fin rows → Fin columns → Int)
    (root : Fin rows) (before after : State rows columns) : Prop where
  /-- The search gets to a free column. -/
  search : Leads weight (.settled root.val before)
    (.walking root passage.selected 0 passage.reached passage.tree passage.column)
  free : passage.reached.rowOf.get passage.column = none
  selected_le : passage.selected ≤ root.val + 1
  /-- As many steps are enough for the growth of the tree. -/
  grown : grow weight before (plant weight before root) (root.val + 1) =
    some (passage.reached, passage.tree, passage.column)
  /-- The way back gets to the root. -/
  back : Leads weight
    (.walking root passage.selected 0 passage.reached passage.tree passage.column)
    (.walking root passage.selected passage.walked passage.rematched passage.tree passage.last)
  root_last : passage.tree.parent?.get passage.last = some root
  walked_le : passage.walked ≤ root.val
  /-- With the match of the root the row is added. -/
  finish : (Stage.walking root passage.selected passage.walked passage.rematched passage.tree
    passage.last).next? weight = some (.settled (root.val + 1) after)
  matchedRows_eq : after.matchedRows = root.val + 1
  /-- The rows that were matched still are. -/
  kept : ∀ row : Fin rows, (before.columnOf.get row).isSome → (after.columnOf.get row).isSome
  inverse : after.Inverse

theorem Passage.Adds.leads {passage : Passage rows columns} {before after : State rows columns}
    (adds : passage.Adds weight root before after) :
    Leads weight (.settled root.val before) (.settled (root.val + 1) after) :=
  (adds.search.trans adds.back).tail adds.finish

theorem mem_take_finRange_iff {added : Nat} {row : Fin rows} :
    row ∈ (List.finRange rows).take added ↔ row.val < added := by
  rw [List.mem_take_iff_getElem]
  constructor
  · rintro ⟨index, small, rfl⟩
    simp only [List.getElem_finRange, Fin.val_cast]
    omega
  · intro small
    refine ⟨row.val, ?_, ?_⟩
    · rw [List.length_finRange]
      omega
    · rw [List.getElem_finRange]
      rfl

theorem State.matchedRows_eq {count : Nat} (atMost : count ≤ rows)
    (matched_iff : ∀ row : Fin rows, (state.columnOf.get row).isSome ↔ row.val < count) :
    state.matchedRows = count := by
  simp only [State.matchedRows, matched_iff]
  rw [Fin.card_filter_val_lt, Nat.min_eq_right atMost]

theorem Added.matchedRows_eq {count : Nat} (atMost : count ≤ rows)
    (before : Added weight ((List.finRange rows).take count) state) : state.matchedRows = count :=
  State.matchedRows_eq atMost fun row => (before.matched_iff row).trans mem_take_finRange_iff

section Passage

variable (before : Added weight ((List.finRange rows).take root.val) state)
  (after : Added weight ((List.finRange rows).take (root.val + 1)) (addRow weight state root))
  (fits : rows ≤ columns)

include before after fits

theorem exists_passage : ∃ passage : Passage rows columns,
    passage.Adds weight root state (addRow weight state root) := by
  have free : state.columnOf.get root = none := by
    rw [← Option.not_isSome_iff_eq_none, before.matched_iff, mem_take_finRange_iff]
    omega
  have matchedRows_eq := before.matchedRows_eq root.isLt.le
  have growing := growing_plant before.labelled before.inverse free
  rcases growing.reaches (by omega) (by omega : state.matchedRows + 1 ≤ _ + (root.val + 1)) with
    ⟨reached, tree, column, grown, reaches⟩
  rcases reaches.path with ⟨length, short, path⟩
  rcases leads_of_grow_eq_some root 0 grown with ⟨selected, selected_le, search, columnFree⟩
  rcases leads_augment weight selected 0 path (by omega : length ≤ rows) with
    ⟨walked, rematched, last, count, back, root_last, finish⟩
  have planted : (Stage.settled root.val state).next? weight =
      some (.growing root 0 state (plant weight state root)) := by
    rw [Stage.next?, dif_pos root.isLt]
  refine ⟨⟨selected, reached, tree, column, walked, rematched, last⟩, ?_⟩
  constructor
  · exact .head planted search
  · exact columnFree
  · show selected ≤ root.val + 1
    omega
  · exact grown
  · exact back
  · exact root_last
  · show walked ≤ root.val
    omega
  · rw [finish, addRow, grow_of_le (by omega : root.val + 1 ≤ columns) grown]
  · exact after.matchedRows_eq root.isLt
  · intro row matched
    rw [after.matched_iff, mem_take_finRange_iff]
    rw [before.matched_iff, mem_take_finRange_iff] at matched
    omega
  · exact after.inverse

end Passage

/-! ## All rows -/

/-- The state after the first rows were added. -/
def stateAfter (weight : Fin rows → Fin columns → Int) (added : Nat) : State rows columns :=
  ((List.finRange rows).take added).foldl (addRow weight) (start weight)

theorem stateAfter_succ (root : Fin rows) :
    stateAfter weight (root.val + 1) = addRow weight (stateAfter weight root.val) root := by
  have inside : root.val < (List.finRange rows).length := by
    rw [List.length_finRange]
    exact root.isLt
  rw [stateAfter, List.take_succ_eq_append_getElem inside, List.foldl_append,
    List.getElem_finRange]
  rfl

theorem stateAfter_rows : stateAfter weight rows = solve weight := by
  rw [stateAfter, List.take_of_length_le (List.length_finRange).le, solve]

section Solve

variable (weight_nonneg : ∀ row column, 0 ≤ weight row column) (fits : rows ≤ columns)

include weight_nonneg fits

/-- The rows that are added first are those with the lowest numbers. -/
theorem added_stateAfter (added : Nat) :
    Added weight ((List.finRange rows).take added) (stateAfter weight added) :=
  (added_start weight).addRows weight_nonneg fits _
    ((List.take_sublist added _).nodup (List.nodup_finRange rows))

theorem exists_passage_stateAfter (root : Fin rows) : ∃ passage : Passage rows columns,
    passage.Adds weight root (stateAfter weight root.val) (stateAfter weight (root.val + 1)) := by
  have before := added_stateAfter weight_nonneg fits root.val
  have after := added_stateAfter weight_nonneg fits (root.val + 1)
  rw [stateAfter_succ] at after ⊢
  exact exists_passage before after fits

/-- The computation gets through all rows and ends with the result of the solver. -/
theorem leads_solve : Leads weight (.settled 0 (start weight)) (.settled rows (solve weight)) := by
  have leads (added : Nat) (atMost : added ≤ rows) :
      Leads weight (.settled 0 (start weight)) (.settled added (stateAfter weight added)) := by
    induction added with
    | zero => exact .refl
    | succ added ih =>
        rcases exists_passage_stateAfter weight_nonneg fits ⟨added, atMost⟩ with ⟨_, adds⟩
        exact (ih (by omega)).trans adds.leads
  rw [← stateAfter_rows]
  exact leads rows (Nat.le_refl rows)

end Solve

end Solver

end Resemblance
