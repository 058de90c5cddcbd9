/-!
# Settings of a table
-/

namespace RecordGrid

/-- Whether records may be added and removed at all. -/
inductive RowMode where
  | fixed
  | growing
deriving DecidableEq, Repr

inductive ControlSide where
  | left
  | right
deriving DecidableEq, Repr

structure RowControls where
  mode : RowMode := .growing
  minRows : Option Nat := none
  maxRows : Option Nat := none
  allowAddRemove : Bool := false
  initialRows : Option Nat := none
  side : ControlSide := .right
deriving DecidableEq, Repr

/-- The number of records to begin with where there is no data. -/
def RowControls.initialRowCount (c : RowControls) : Nat :=
  match c.initialRows with
  | some (n + 1) => n + 1
  | _ => 1

structure Paging where
  enabled : Bool := false
  rowsPerPage : Option Nat := none
deriving DecidableEq, Repr

def defaultRowsPerPage : Nat := 5

def Paging.pageSize (p : Paging) : Nat :=
  match p.rowsPerPage with
  | some (n + 1) => n + 1
  | _ => defaultRowsPerPage

inductive WidthMode where
  | auto
  | fixed
deriving DecidableEq, Repr

structure ColumnLayout where
  columnCount : Option Nat := none
  columnWidthMode : WidthMode := .auto
  stickyHeaders : Bool := false
  resizableColumns : Bool := false
deriving DecidableEq, Repr

structure TableStyle where
  tableBorder : Bool := false
  stripedRows : Bool := false
  alternateRowColor : Option String := none
  headerColor : Option String := none
  headerFontColor : Option String := none
deriving DecidableEq, Repr

end RecordGrid
