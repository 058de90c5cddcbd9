import RecordGrid.Grid.Basic
import RecordGrid.Schema.Writing

/-!
# Grids as documents
-/

namespace RecordGrid.Grid

/-- Reads a grid; nothing may be missing from it, and it need not be a grid
that edits lead to. -/
def ofJson? (j : Json) : Option Grid := do
  let r ← Json.record? ["columns", "rows", "selected_rows", "selected_cols", "page"] j
  let columns ← Json.required r "columns" (Json.asList? Column.ofJson?)
  let rows ← Json.required r "rows" (Json.asList? Json.asMembers?)
  let selectedRows ← Json.required r "selected_rows" (Json.asList? Json.asCount?)
  let selectedCols ← Json.required r "selected_cols" (Json.asList? Json.asStr?)
  let page ← Json.required r "page" Json.asCount?
  some
    { columns, rows, page, selectedRows := Ascending.ofList selectedRows,
      selectedCols := Ascending.ofList selectedCols }

def toJson (g : Grid) : Json :=
  .obj
    [("columns", .arr (g.columns.map Column.toJson)), ("rows", Row.listToJson g.rows),
      ("selected_rows", .arr (g.selectedRows.map Json.ofNat)),
      ("selected_cols", Json.strings g.selectedCols), ("page", Json.ofNat g.page)]

end RecordGrid.Grid
