import RecordGrid.Schema.Column
import RecordGrid.Schema.HeaderNode
import RecordGrid.Schema.Settings

/-!
# Schemas

A schema says which columns a grid has, how their headers are grouped and how
records are seeded.
-/

namespace RecordGrid

structure Schema where
  columns : List Column := []
  headerStructure : Option (List HeaderNode) := none
  preloadRows : Option (List Row) := none
  rowControls : RowControls := {}
  paging : Paging := {}
  columnLayout : ColumnLayout := {}
  style : TableStyle := {}

/-- A record with the declared default of every column that has one. -/
def defaultRow (columns : List Column) : Row :=
  columns.foldl
    (fun row c => c.defaultValue.elim row fun v => Keyed.insert c.fieldId v row) []

namespace Schema

def defaultRow (s : Schema) : Row := RecordGrid.defaultRow s.columns

/-- The records a session starts with: the data of the host if there is any,
else the records of the schema, else records of defaults. -/
def seedRows (s : Schema) (external : List Row) : List Row :=
  if external.isEmpty then
    s.preloadRows.getD (List.replicate s.rowControls.initialRowCount s.defaultRow)
  else external

end Schema

end RecordGrid
