import RecordGrid.Schema.Reading

/-!
# Writing schema documents

A schema as a document that reads back as the same schema.  Settings a column
does not have are left out; all others that are missing are null.
-/

namespace RecordGrid

namespace Json

def ofOption (write : α → Json) : Option α → Json
  | none => .null
  | some a => write a

def ofNat (n : Nat) : Json := .int n

def strings (ss : List String) : Json := .arr (ss.map .str)

/-- The object of the members that are there. -/
def objectOf (members : List (String × Option Json)) : Json :=
  .obj (members.filterMap fun m => m.2.map fun j => (m.1, j))

/-- A list, where there is something in it. -/
def unlessEmpty (write : List α → Json) : List α → Option Json
  | [] => none
  | as => some (write as)

def ofWord [DecidableEq α] (words : List (String × α)) (a : α) : Json :=
  ofOption (fun w => .str w.1) (words.find? fun w => w.2 = a)

end Json

open Json (ofOption ofNat strings objectOf unlessEmpty ofWord)

def Bounds.toJson (b : Bounds) : Json :=
  .obj [("min", ofOption .float b.min), ("max", ofOption .float b.max)]

def Choice.toJson (c : Choice) : Json :=
  .obj [("label", .str c.label), ("value", .str c.value)]

def Choice.listToJson (cs : List Choice) : Json := .arr (cs.map Choice.toJson)

def Column.toJson (c : Column) : Json :=
  objectOf
    [("field_id", some (.str c.fieldId)), ("field_name", some (.str c.fieldName)),
      ("field_type", some (.str c.fieldType)), ("unit", c.unit.map .str),
      ("precision", c.precision.map ofNat), ("required", some (.bool c.required)),
      ("read_only", some (.bool c.readOnly)), ("default_value", c.defaultValue),
      ("validation", c.validation.map Bounds.toJson),
      ("options", unlessEmpty Choice.listToJson c.options),
      ("formula", c.formula.map .str), ("endpoint", c.endpoint.map .str),
      ("bind_field", c.bindField.map .str), ("multiline", some (.bool c.multiline)),
      ("max_length", c.maxLength.map ofNat), ("rows", c.rows.map ofNat),
      ("capture_camera", some (.bool c.captureCamera)),
      ("file_types", unlessEmpty strings c.fileTypes),
      ("max_size_mb", c.maxSizeMb.map .float),
      ("signed_by_role", unlessEmpty strings c.signedByRole),
      ("visibility_condition", c.visibilityCondition.map .str)]

namespace HeaderNode

mutual

def toJson : HeaderNode → Json
  | ⟨label, columns, children⟩ =>
      objectOf
        [("label", some (.str label)), ("columns", columns.map strings),
          ("children", childrenToJson children)]

def childrenToJson : Option (List HeaderNode) → Option Json
  | none => none
  | some nodes => some (.arr (listToJson nodes))

def listToJson : List HeaderNode → List Json
  | [] => []
  | node :: rest => toJson node :: listToJson rest

end

end HeaderNode

def RowControls.toJson (c : RowControls) : Json :=
  .obj
    [("mode", ofWord RowMode.words c.mode), ("min_rows", ofOption ofNat c.minRows),
      ("max_rows", ofOption ofNat c.maxRows), ("allow_add_remove", .bool c.allowAddRemove),
      ("initial_rows", ofOption ofNat c.initialRows), ("side", ofWord ControlSide.words c.side)]

def Paging.toJson (p : Paging) : Json :=
  .obj [("enabled", .bool p.enabled), ("rows_per_page", ofOption ofNat p.rowsPerPage)]

def ColumnLayout.toJson (l : ColumnLayout) : Json :=
  .obj
    [("column_count", ofOption ofNat l.columnCount),
      ("column_width_mode", ofWord WidthMode.words l.columnWidthMode),
      ("sticky_headers", .bool l.stickyHeaders),
      ("resizable_columns", .bool l.resizableColumns)]

def TableStyle.toJson (s : TableStyle) : Json :=
  .obj
    [("table_border", .bool s.tableBorder), ("striped_rows", .bool s.stripedRows),
      ("alternate_row_color", ofOption .str s.alternateRowColor),
      ("header_color", ofOption .str s.headerColor),
      ("header_font_color", ofOption .str s.headerFontColor)]

def Row.listToJson (rows : List Row) : Json := .arr (rows.map .obj)

def Schema.toJson (s : Schema) : Json :=
  .obj
    [("columns", .arr (s.columns.map Column.toJson)),
      ("header_structure",
        ofOption (fun nodes => .arr (HeaderNode.listToJson nodes)) s.headerStructure),
      ("preload_rows", ofOption Row.listToJson s.preloadRows),
      ("row_controls", s.rowControls.toJson), ("pagination", s.paging.toJson),
      ("column_layout", s.columnLayout.toJson), ("style", s.style.toJson)]

end RecordGrid
