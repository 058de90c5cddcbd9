import RecordGrid.Schema.Writing
import RecordGrid.View.Cell

/-!
# Views as documents
-/

namespace RecordGrid

open Json (ofOption ofNat strings objectOf unlessEmpty ofWord)

def FieldKind.words : List (String × FieldKind) :=
  [("free_text", .freeText), ("numeric", .numeric), ("boolean", .boolean),
    ("enumerated", .enumerated), ("binary_asset", .binaryAsset), ("derived", .derived),
    ("opaque", .unknown)]

def FieldKind.toJson (k : FieldKind) : Json := ofWord FieldKind.words k

def HeaderCell.toJson (c : HeaderCell) : Json :=
  .obj
    [("label", .str c.label), ("depth", ofNat c.depth), ("col_span", ofNat c.colSpan),
      ("row_span", ofNat c.rowSpan), ("field_ids", strings c.fieldIds),
      ("field_id", ofOption .str c.fieldId?), ("has_children", .bool c.hasChildren)]

def HeaderLayout.rowsToJson (l : HeaderLayout) : Json :=
  .arr (l.rows.map fun row => .arr (row.map HeaderCell.toJson))

def HeaderLayout.toJson (l : HeaderLayout) : Json := .obj [("rows", l.rowsToJson)]

def PageInfo.toJson (i : PageInfo) : Json :=
  .obj
    [("enabled", .bool i.enabled), ("page", ofNat i.page), ("total_pages", ofNat i.totalPages),
      ("rows_per_page", ofNat i.rowsPerPage), ("total_rows", ofNat i.totalRows),
      ("start", ofNat i.start), ("end", ofNat i.stop)]

def CellView.toJson (c : CellView) : Json :=
  objectOf
    [("field_id", some (.str c.fieldId)), ("field_type", some (.str c.fieldType)),
      ("kind", some c.kind.toJson), ("visible", some (.bool c.visible)),
      ("editable", some (.bool c.editable)), ("value", some c.value),
      ("display", some (.str c.display)), ("valid", some (.bool c.valid)),
      ("options", unlessEmpty Choice.listToJson c.options), ("unit", c.unit.map .str)]

def RowView.toJson (r : RowView) : Json :=
  .obj
    [("index", ofNat r.index), ("selected", .bool r.selected),
      ("cells", .arr (r.cells.map CellView.toJson))]

def PageView.toJson (p : PageView) : Json :=
  .obj
    [("page", p.page.toJson), ("header", p.header.toJson),
      ("rows", .arr (p.rows.map RowView.toJson))]

end RecordGrid
