import RecordGrid.Json.Reading
import RecordGrid.Json.Record
import RecordGrid.Json.Writing
import RecordGrid.Schema.Basic

/-!
# Reading schema documents

Documents are often written by hand.  Every section is read on its own, and
one that is malformed falls back to its defaults; a malformed column keeps the
keys that identify it.  Only a document that is no object at all is refused.
-/

namespace RecordGrid

inductive SchemaError where
  | notJson
  | notAnObject
deriving DecidableEq, Repr

def SchemaError.message : SchemaError → String
  | .notJson => "schema is not valid JSON"
  | .notAnObject => "schema document must be a JSON object"

namespace Json

def asScalarText? : Json → Option String
  | .null => some ""
  | .bool b => some (if b then "true" else "false")
  | .int n => some (compact (.int n))
  | .float x => some (compact (.float x))
  | .str s => some s
  | _ => none

end Json

open Json (record? required defaulted optional)

def Bounds.ofJson? (j : Json) : Option Bounds := do
  let r ← record? ["min", "max"] j
  let min ← optional r "min" Json.asNumber?
  let max ← optional r "max" Json.asNumber?
  some { min, max }

def Choice.keys : List String := ["label", "value"]

def Choice.ofJson? (j : Json) : Option Choice := do
  let r ← record? Choice.keys j
  let label ← required r "label" Json.asScalarText?
  let value ← required r "value" Json.asScalarText?
  some { label, value }

namespace Column

/-- The keys of a column, in the order in which it declares them. -/
def keys : List String :=
  ["field_id", "field_name", "field_type", "unit", "precision", "required", "read_only",
    "default_value", "validation", "options", "formula", "endpoint", "bind_field", "multiline",
    "max_length", "rows", "capture_camera", "file_types", "max_size_mb", "signed_by_role",
    "visibility_condition"]

def ofJson? (j : Json) : Option Column := do
  let r ← record? keys j
  let fieldId ← defaulted r "field_id" "" Json.asStr?
  let fieldName ← defaulted r "field_name" "" Json.asStr?
  let fieldType ← defaulted r "field_type" "" Json.asStr?
  let unit ← optional r "unit" Json.asStr?
  let precision ← optional r "precision" (Json.asNatBelow? 0x100000000)
  let required ← defaulted r "required" false Json.asBool?
  let readOnly ← defaulted r "read_only" false Json.asBool?
  let defaultValue ← optional r "default_value" some
  let validation ← optional r "validation" Bounds.ofJson?
  let options ← defaulted r "options" [] (Json.asList? Choice.ofJson?)
  let formula ← optional r "formula" Json.asStr?
  let endpoint ← optional r "endpoint" Json.asStr?
  let bindField ← optional r "bind_field" Json.asStr?
  let multiline ← defaulted r "multiline" false Json.asBool?
  let maxLength ← optional r "max_length" Json.asCount?
  let rows ← optional r "rows" (Json.asNatBelow? 0x100000000)
  let captureCamera ← defaulted r "capture_camera" false Json.asBool?
  let fileTypes ← defaulted r "file_types" [] (Json.asList? Json.asStr?)
  let maxSizeMb ← optional r "max_size_mb" Json.asNumber?
  let signedByRole ← defaulted r "signed_by_role" [] (Json.asList? Json.asStr?)
  let visibilityCondition ← optional r "visibility_condition" Json.asStr?
  some
    { fieldId, fieldName, fieldType, unit, precision, required, readOnly, defaultValue,
      validation, options, formula, endpoint, bindField, multiline, maxLength, rows,
      captureCamera, fileTypes, maxSizeMb, signedByRole, visibilityCondition }

/-- The column that keeps only the identifying keys of an object. -/
def salvage (members : List (String × Json)) : Column :=
  let text (key : String) := ((Keyed.get? members key).bind Json.asStr?).getD ""
  plain (text "field_id") (text "field_name") (text "field_type")

/-- The column of an object, salvaged where it is malformed. -/
def ofMembers (members : List (String × Json)) : Column :=
  (ofJson? (.obj members)).getD (salvage members)

/-- The column with its id for a name, where the name is blank. -/
def named (c : Column) : Column :=
  if Text.allBlank c.fieldName then { c with fieldName := c.fieldId } else c

/-- The first column of every id. -/
def firstOfEach : List Column → List Column
  | [] => []
  | c :: rest => c :: (firstOfEach rest).filter fun d => d.fieldId ≠ c.fieldId

/-- The columns of a list of items: objects with an id that is not blank, the
first of every id. -/
def listOfItems (items : List Json) : List Column :=
  let read := (items.filterMap Json.asMembers?).map ofMembers
  (firstOfEach (read.filter fun c => !Text.allBlank c.fieldId)).map named

def listOfJson : Option Json → List Column
  | some (.arr items) => listOfItems items
  | _ => []

end Column

namespace HeaderNode

def keys : List String := ["label", "columns", "children"]

mutual

def ofJson? : Json → Option HeaderNode
  | .obj members => do
      let r ← record? keys (.obj members)
      let label ← defaulted r "label" "" Json.asStr?
      let columns ← optional r "columns" (Json.asList? Json.asStr?)
      let children ← childrenOfMembers? members
      some { label, columns, children }
  | .arr items => do
      let r ← record? keys (.arr items)
      let label ← defaulted r "label" "" Json.asStr?
      let columns ← optional r "columns" (Json.asList? Json.asStr?)
      let children ← childrenOfItems? 2 items
      some { label, columns, children }
  | _ => none

/-- The nodes under `children`. -/
def childrenOfMembers? : List (String × Json) → Option (Option (List HeaderNode))
  | [] => some none
  | (key, j) :: rest => if key = "children" then childrenOfJson? j else childrenOfMembers? rest

/-- The nodes in the item that comes after as many others. -/
def childrenOfItems? : (before : Nat) → List Json → Option (Option (List HeaderNode))
  | _, [] => some none
  | 0, j :: _ => childrenOfJson? j
  | before + 1, _ :: rest => childrenOfItems? before rest

def childrenOfJson? : Json → Option (Option (List HeaderNode))
  | .null => some none
  | .arr items => (listOfItems? items).map some
  | _ => none

def listOfItems? : List Json → Option (List HeaderNode)
  | [] => some []
  | j :: rest => do
      let node ← ofJson? j
      let nodes ← listOfItems? rest
      some (node :: nodes)

end

def listOfJson? : Json → Option (List HeaderNode)
  | .arr items => listOfItems? items
  | _ => none

end HeaderNode

def RowMode.words : List (String × RowMode) := [("fixed", .fixed), ("growing", .growing)]

def ControlSide.words : List (String × ControlSide) := [("left", .left), ("right", .right)]

def WidthMode.words : List (String × WidthMode) := [("auto", .auto), ("fixed", .fixed)]

def RowControls.ofJson? (j : Json) : Option RowControls := do
  let r ← record?
    ["mode", "min_rows", "max_rows", "allow_add_remove", "initial_rows", "side"] j
  let mode ← defaulted r "mode" .growing (Json.word RowMode.words)
  let minRows ← optional r "min_rows" Json.asCount?
  let maxRows ← optional r "max_rows" Json.asCount?
  let allowAddRemove ← defaulted r "allow_add_remove" false Json.asBool?
  let initialRows ← optional r "initial_rows" Json.asCount?
  let side ← defaulted r "side" .right (Json.word ControlSide.words)
  some { mode, minRows, maxRows, allowAddRemove, initialRows, side }

def Paging.ofJson? (j : Json) : Option Paging := do
  let r ← record? ["enabled", "rows_per_page"] j
  let enabled ← defaulted r "enabled" false Json.asBool?
  let rowsPerPage ← optional r "rows_per_page" Json.asCount?
  some { enabled, rowsPerPage }

def ColumnLayout.ofJson? (j : Json) : Option ColumnLayout := do
  let r ← record?
    ["column_count", "column_width_mode", "sticky_headers", "resizable_columns"] j
  let columnCount ← optional r "column_count" Json.asCount?
  let columnWidthMode ← defaulted r "column_width_mode" .auto (Json.word WidthMode.words)
  let stickyHeaders ← defaulted r "sticky_headers" false Json.asBool?
  let resizableColumns ← defaulted r "resizable_columns" false Json.asBool?
  some { columnCount, columnWidthMode, stickyHeaders, resizableColumns }

def TableStyle.ofJson? (j : Json) : Option TableStyle := do
  let r ← record?
    ["table_border", "striped_rows", "alternate_row_color", "header_color",
      "header_font_color"] j
  let tableBorder ← defaulted r "table_border" false Json.asBool?
  let stripedRows ← defaulted r "striped_rows" false Json.asBool?
  let alternateRowColor ← optional r "alternate_row_color" Json.asStr?
  let headerColor ← optional r "header_color" Json.asStr?
  let headerFontColor ← optional r "header_font_color" Json.asStr?
  some { tableBorder, stripedRows, alternateRowColor, headerColor, headerFontColor }

namespace Schema

/-- The records that a document preloads; items that are no objects are
passed over. -/
def preloadOfJson? : Option Json → Option (List Row)
  | some (.arr items) => some (items.filterMap Json.asMembers?)
  | _ => none

/-- A section of a document; null and a malformed one are as good as none. -/
def section? (config : List (String × Json)) (key : String) (read : Json → Option α) :
    Option α :=
  match Keyed.get? config key with
  | none => none
  | some .null => none
  | some j => read j

/-- The members that hold the sections: those under `table_config` where it is
an object, else those of the document. -/
def config (root : List (String × Json)) : List (String × Json) :=
  match Keyed.get? root "table_config" with
  | some (.obj inner) => inner
  | _ => root

def ofConfig (config : List (String × Json)) : Schema where
  columns := Column.listOfJson (Keyed.get? config "columns")
  headerStructure := section? config "header_structure" HeaderNode.listOfJson?
  preloadRows := preloadOfJson? (Keyed.get? config "preload_rows")
  rowControls := (section? config "row_controls" RowControls.ofJson?).getD {}
  paging := (section? config "pagination" Paging.ofJson?).getD {}
  columnLayout := (section? config "column_layout" ColumnLayout.ofJson?).getD {}
  style := (section? config "style" TableStyle.ofJson?).getD {}

def ofJson : Json → Except SchemaError Schema
  | .obj root => .ok (ofConfig (config root))
  | _ => .error .notAnObject

def ofText (text : String) : Except SchemaError Schema :=
  match Json.read? text with
  | none => .error .notJson
  | some j => ofJson j

end Schema

end RecordGrid
