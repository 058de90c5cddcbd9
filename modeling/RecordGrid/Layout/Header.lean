import RecordGrid.Schema.Column
import RecordGrid.Schema.HeaderNode

/-!
# Header layouts

A header description laid out over the columns there are.  Ids without a column
are dropped, together with the nodes that are left without any; a column the
description does not mention gets a leaf of its own, right after the top node
that holds the column before it.  The nodes then become rows of cells, one row
for every level of the description.
-/

namespace RecordGrid

structure HeaderCell where
  label : String
  depth : Nat
  colSpan : Nat
  rowSpan : Nat
  /-- The ids under the cell, in order. -/
  fieldIds : List String
  hasChildren : Bool
deriving DecidableEq, Repr

/-- The id of the one column that a cell without children stands over. -/
def HeaderCell.fieldId? (c : HeaderCell) : Option String :=
  match c.hasChildren, c.fieldIds with
  | false, [id] => some id
  | _, _ => none

namespace HeaderNode

mutual

/-- The ids under a node, its own before those of the nodes below. -/
def fieldIds : HeaderNode → List String
  | ⟨_, columns, children⟩ => columns.getD [] ++ idsOfChildren children

def idsOfChildren : Option (List HeaderNode) → List String
  | none => []
  | some nodes => idsOfNodes nodes

def idsOfNodes : List HeaderNode → List String
  | [] => []
  | node :: rest => fieldIds node ++ idsOfNodes rest

end

mutual

/-- The number of levels of a node, its own included. -/
def height : HeaderNode → Nat
  | ⟨_, _, children⟩ => heightOfChildren children + 1

def heightOfChildren : Option (List HeaderNode) → Nat
  | none => 0
  | some nodes => heightOfNodes nodes

def heightOfNodes : List HeaderNode → Nat
  | [] => 0
  | node :: rest => max (height node) (heightOfNodes rest)

end

mutual

/-- The node without the ids that are not present; none where it had ids and
all of them are gone. -/
def prune? (present : List String) : HeaderNode → Option HeaderNode
  | ⟨label, columns, children⟩ =>
      let pruned : HeaderNode :=
        ⟨label, columns.map (·.filter present.contains), pruneChildren present children⟩
      if (fieldIds ⟨label, columns, children⟩).isEmpty || !pruned.fieldIds.isEmpty then
        some pruned
      else none

def pruneChildren (present : List String) : Option (List HeaderNode) → Option (List HeaderNode)
  | none => none
  | some nodes => some (pruneNodes present nodes)

def pruneNodes (present : List String) : List HeaderNode → List HeaderNode
  | [] => []
  | node :: rest => (prune? present node).toList ++ pruneNodes present rest

end

def leaf (c : Column) : HeaderNode := { label := c.fieldName, columns := some [c.fieldId] }

/-- Places a column among the nodes: one that is mentioned moves the place
where the next is put behind the node that holds it, any other is put there. -/
def placeColumn (mentioned : List String) (state : List HeaderNode × Nat) (c : Column) :
    List HeaderNode × Nat :=
  if mentioned.contains c.fieldId then
    match state.1.findIdx? fun n => n.fieldIds.contains c.fieldId with
    | some i => (state.1, max state.2 (i + 1))
    | none => state
  else (state.1.insertIdx state.2 (leaf c), state.2 + 1)

def forColumns (nodes : List HeaderNode) (columns : List Column) : List HeaderNode :=
  let pruned := pruneNodes (columns.map (·.fieldId)) nodes
  (columns.foldl (placeColumn (idsOfNodes pruned)) (pruned, 0)).1

mutual

/-- The cells of a node at a depth, in a header of as many rows. -/
def cells (rows : Nat) (depth : Nat) : HeaderNode → List HeaderCell
  | ⟨label, columns, children⟩ =>
      let node : HeaderNode := ⟨label, columns, children⟩
      { label, depth, fieldIds := node.fieldIds, hasChildren := node.hasChildren,
        colSpan := max node.fieldIds.length 1,
        rowSpan := if node.hasChildren then 1 else rows - depth } ::
        cellsOfChildren rows (depth + 1) children

def cellsOfChildren (rows : Nat) (depth : Nat) : Option (List HeaderNode) → List HeaderCell
  | none => []
  | some nodes => cellsOfNodes rows depth nodes

def cellsOfNodes (rows : Nat) (depth : Nat) : List HeaderNode → List HeaderCell
  | [] => []
  | node :: rest => cells rows depth node ++ cellsOfNodes rows depth rest

end

end HeaderNode

/-- The rows of a header, from the top. -/
structure HeaderLayout where
  rows : List (List HeaderCell) := []
deriving DecidableEq, Repr

namespace HeaderLayout

def depth (l : HeaderLayout) : Nat := l.rows.length

def ofNodes (nodes : List HeaderNode) : HeaderLayout :=
  let rows := HeaderNode.heightOfNodes nodes
  let cells := HeaderNode.cellsOfNodes rows 0 nodes
  ⟨(List.range rows).map fun depth => cells.filter fun c => c.depth == depth⟩

/-- The header of a table, with a description or without. -/
def ofColumns (description : Option (List HeaderNode)) (columns : List Column) : HeaderLayout :=
  ofNodes (HeaderNode.forColumns (description.getD []) columns)

end HeaderLayout

end RecordGrid
