import RecordGrid.Grid.Columns
import RecordGrid.Grid.Rows

/-!
# The structural edits of a session
-/

namespace RecordGrid

inductive StructuralEdit where
  | addRow
  | removeRow (index : Nat)
  | mergeRows
  | splitRow
  | addColumn (label : String)
  | removeColumn (fieldId : String)
  | mergeColumns
  | splitColumn
deriving DecidableEq, Repr

namespace StructuralEdit

def apply (p : Policy) : StructuralEdit → Grid → Transition
  | .addRow, g => g.addRow p
  | .removeRow index, g => g.removeRow p index
  | .mergeRows, g => g.mergeRows p
  | .splitRow, g => g.splitRow p
  | .addColumn label, g => g.addColumn label
  | .removeColumn fieldId, g => g.removeColumn fieldId
  | .mergeColumns, g => g.mergeColumns
  | .splitColumn, g => g.splitColumn

/-- The fault that ends an edit, if one does.  To remove or merge records is to count
the pages of those that are left. -/
def fault? (p : Policy) : StructuralEdit → Grid → Option IndexFault
  | .removeRow index, g =>
      if index < g.rowCount ∧ p.canShrink g.rowCount then p.paging.fault? (g.rowCount - 1)
      else none
  | .mergeRows, g =>
      if 2 ≤ g.rowCount ∧ p.canShrink g.rowCount then p.paging.fault? (g.rowCount - 1)
      else none
  | _, _ => none

def description : StructuralEdit → String
  | .addRow => "Add row"
  | .removeRow _ => "Remove row"
  | .mergeRows => "Merge rows"
  | .splitRow => "Split row"
  | .addColumn _ => "Add column"
  | .removeColumn _ => "Remove column"
  | .mergeColumns => "Merge columns"
  | .splitColumn => "Split column"

end StructuralEdit

end RecordGrid
