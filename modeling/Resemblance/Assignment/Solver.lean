/-!
# Maximum-weight matchings

A matching of all rows of an integer matrix to different columns, with the greatest total weight.
There are at least as many columns as rows.

Rows and columns carry labels whose sum is at least the weight at every crossing and equals it at
every matched crossing. The rows are added one after the other. To add a row, a tree of crossings
without slack is grown from it until it reaches a free column; the labels of the tree change as
little as is needed to let it grow. Then the path from the free column back to the row changes
matched crossings into unmatched ones and the reverse.

Among equally good columns the first one is taken, so the result is determined.
-/

namespace Resemblance

namespace Solver

variable {rows columns : Nat}

/-- The labels, and the matching in both directions. -/
structure State (rows columns : Nat) where
  rowLabel : Vector Int rows
  columnLabel : Vector Int columns
  columnOf : Vector (Option (Fin columns)) rows
  rowOf : Vector (Option (Fin rows)) columns

/-- The tree that grows from a row. -/
structure Tree (rows columns : Nat) where
  reached : Vector Bool rows
  /-- The row from which the tree reached each of its columns. -/
  parent? : Vector (Option (Fin rows)) columns
  /-- The least slack between a row of the tree and each column outside it. -/
  slack : Vector Int columns
  /-- A row of the tree with that slack. -/
  nearest : Vector (Fin rows) columns

/-- The slack of a crossing: how far the labels exceed its weight. -/
def State.slackAt (weight : Fin rows → Fin columns → Int) (state : State rows columns)
    (row : Fin rows) (column : Fin columns) : Int :=
  state.rowLabel.get row + state.columnLabel.get column - weight row column

def rowMaximum (weight : Fin rows → Fin columns → Int) (row : Fin rows) : Int :=
  (List.finRange columns).foldl (fun greatest column => max greatest (weight row column)) 0

/-- Rows are labelled with their greatest weight and columns with zero; nothing is matched. -/
def start (weight : Fin rows → Fin columns → Int) : State rows columns where
  rowLabel := Vector.ofFn (rowMaximum weight)
  columnLabel := Vector.ofFn fun _ => 0
  columnOf := Vector.ofFn fun _ => none
  rowOf := Vector.ofFn fun _ => none

def plant (weight : Fin rows → Fin columns → Int) (state : State rows columns)
    (root : Fin rows) : Tree rows columns where
  reached := Vector.ofFn fun row => row = root
  parent? := Vector.ofFn fun _ => none
  slack := Vector.ofFn (state.slackAt weight root)
  nearest := Vector.ofFn fun _ => root

/-- The first column outside the tree with the least slack. -/
def Tree.nextColumn? (tree : Tree rows columns) : Option (Fin columns) :=
  (List.finRange columns).foldl
    (fun best? column =>
      if (tree.parent?.get column).isSome then best?
      else
        match best? with
        | none => some column
        | some best =>
            if tree.slack.get column < tree.slack.get best then some column else best?)
    none

/-- Lowers the labels of the rows of a tree and raises those of its columns by `change`. -/
def State.relabel (state : State rows columns) (tree : Tree rows columns) (change : Int) :
    State rows columns :=
  { state with
    rowLabel := Vector.ofFn fun row =>
      if tree.reached.get row then state.rowLabel.get row - change else state.rowLabel.get row
    columnLabel := Vector.ofFn fun column =>
      if (tree.parent?.get column).isSome then state.columnLabel.get column + change
      else state.columnLabel.get column }

/-- Takes a change of labels out of the slack of the columns outside a tree. -/
def Tree.lowerSlack (tree : Tree rows columns) (change : Int) : Tree rows columns :=
  { tree with
    slack := Vector.ofFn fun column =>
      if (tree.parent?.get column).isSome then tree.slack.get column
      else tree.slack.get column - change }

def Tree.addColumn (tree : Tree rows columns) (column : Fin columns) (row : Fin rows) :
    Tree rows columns :=
  { tree with parent? := tree.parent?.set column.val (some row) column.isLt }

/-- Adds a row to a tree, which may bring columns outside the tree nearer. -/
def Tree.addRow (weight : Fin rows → Fin columns → Int) (state : State rows columns)
    (tree : Tree rows columns) (row : Fin rows) : Tree rows columns :=
  let nearer (column : Fin columns) : Bool :=
    (tree.parent?.get column).isNone && state.slackAt weight row column < tree.slack.get column
  { tree with
    reached := tree.reached.set row.val true row.isLt
    slack := Vector.ofFn fun column =>
      if nearer column then state.slackAt weight row column else tree.slack.get column
    nearest := Vector.ofFn fun column => if nearer column then row else tree.nearest.get column }

/--
Lets a tree grow by one column: the labels change by the least slack, and the column joins the tree.
-/
def growColumn (state : State rows columns) (tree : Tree rows columns) (column : Fin columns) :
    State rows columns × Tree rows columns :=
  let change := tree.slack.get column
  let row := tree.nearest.get column
  if 0 < change then
    (state.relabel tree change, (tree.lowerSlack change).addColumn column row)
  else (state, tree.addColumn column row)

/--
Lets a tree grow until it reaches a free column, in at most `steps` steps; gives the labels, the
tree and the free column.
-/
def grow (weight : Fin rows → Fin columns → Int) (state : State rows columns)
    (tree : Tree rows columns) : (steps : Nat) →
    Option (State rows columns × Tree rows columns × Fin columns)
  | 0 => none
  | steps + 1 =>
      match tree.nextColumn? with
      | none => none
      | some column =>
          let (state, tree) := growColumn state tree column
          match state.rowOf.get column with
          | none => some (state, tree, column)
          | some row => grow weight state (tree.addRow weight state row) steps

/--
Matches a column to the row from which the tree reached it, then the column that this row had, and
so on back to the root, in at most `steps` steps.
-/
def augment (state : State rows columns) (tree : Tree rows columns) (column : Fin columns) :
    (steps : Nat) → State rows columns
  | 0 => state
  | steps + 1 =>
      match tree.parent?.get column with
      | none => state
      | some row =>
          let former? := state.columnOf.get row
          let state := { state with
            rowOf := state.rowOf.set column.val (some row) column.isLt
            columnOf := state.columnOf.set row.val (some column) row.isLt }
          match former? with
          | none => state
          | some former => augment state tree former steps

def addRow (weight : Fin rows → Fin columns → Int) (state : State rows columns)
    (root : Fin rows) : State rows columns :=
  match grow weight state (plant weight state root) columns with
  | none => state
  | some (state, tree, column) => augment state tree column rows

/-- The state after all rows were added, one after the other. -/
def solve (weight : Fin rows → Fin columns → Int) : State rows columns :=
  (List.finRange rows).foldl (addRow weight) (start weight)

end Solver

end Resemblance
