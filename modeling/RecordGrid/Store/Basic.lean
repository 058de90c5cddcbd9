import RecordGrid.Grid.Edit
import RecordGrid.History
import RecordGrid.Lookup.Request
import RecordGrid.Schema.Basic
import RecordGrid.View.Cell

/-!
# Stores

A store holds the grid of a session with everything that goes with it: the
schema, the field types, the compiled expressions, the header, the options and
the records that the host has supplied, the role, the lookups under way and the
history.  The expressions and the header always belong to the columns of the
grid.
-/

namespace RecordGrid

structure Store where
  schema : Schema
  registry : Registry
  expressions : Expressions
  header : HeaderLayout
  supplied : List (String × List Choice)
  role : Option String
  externalRows : List Row
  grid : Grid
  lookups : Lookups
  history : History Grid

namespace Store

def policy (s : Store) : Policy := ⟨s.schema.rowControls, s.schema.paging⟩

def viewer (s : Store) : Viewer := ⟨s.registry, s.expressions, s.supplied, s.role⟩

/-- Brings the expressions and the header in line with the columns. -/
def refreshColumns (s : Store) : Store :=
  { s with
    expressions := s.expressions.refresh s.grid.columns
    header := HeaderLayout.ofColumns s.schema.headerStructure s.grid.columns }

/-- Starts over with a schema: its columns, and records as it seeds them. -/
def install (schema : Schema) (s : Store) : Store :=
  refreshColumns
    { s with
      schema
      grid := { columns := schema.columns, rows := schema.seedRows s.externalRows }
      history := s.history.clear
      lookups := s.lookups.invalidateAll }

/-- The store before there is a schema. -/
def blank (registry : Registry) : Store where
  schema := {}
  registry := registry
  expressions := {}
  header := {}
  supplied := []
  role := none
  externalRows := []
  grid := {}
  lookups := {}
  history := {}

def ofSchema (registry : Registry) (schema : Schema) : Store :=
  install schema (blank registry)

/-! ## What can be seen -/

def pageInfo (s : Store) : PageInfo := .ofPage s.schema.paging s.grid.rowCount s.grid.page

/-- The fault that the pager ends in, if it does. -/
def pageFault? (s : Store) : Option IndexFault := s.schema.paging.fault? s.grid.rowCount

def visibleRows (s : Store) : List Row :=
  (s.grid.rows.take s.pageInfo.stop).drop s.pageInfo.start

def cellView? (s : Store) (row : Nat) (fieldId : String) : Option CellView :=
  match s.grid.rows[row]?, s.grid.column? fieldId with
  | some record, some c => some (s.viewer.cell c (s.viewer.derive s.grid.columns record))
  | _, _ => none

def rowView? (s : Store) (index : Nat) : Option RowView :=
  (s.grid.rows[index]?).map fun record =>
    s.viewer.row s.grid.columns index record (s.grid.selectedRows.contains index)

/-- The header, the pager and the records of the current page. -/
def pageView (s : Store) : PageView where
  page := s.pageInfo
  header := s.header
  rows :=
    (List.range' s.pageInfo.start (s.pageInfo.stop - s.pageInfo.start)).filterMap s.rowView?

/-- All records, with the values of formulas filled in. -/
def materializedRows (s : Store) : List Row := s.grid.rows.map (s.viewer.derive s.grid.columns)

end Store

end RecordGrid
