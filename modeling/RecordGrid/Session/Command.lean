import RecordGrid.Json.Record
import RecordGrid.Schema.Reading
import RecordGrid.Store.Operation

/-!
# Commands

One command is one record, tagged with its name under `cmd`: an object with its
fields, or an array with the name first and the fields in order.
-/

namespace RecordGrid

inductive Command where
  | loadSchema (document : Json)
  | updateCell (row : Nat) (fieldId : String) (raw : Json)
  | perform (op : Store.Operation)
  | snapshot
  | pageView
  | cellView (row : Nat) (fieldId : String)
  | exportRows
  | checkExpression (source : String)

namespace Json

/-- A value as it is stored. -/
def asValue? (j : Json) : Option Json := some j.canonical

/-- A record of a grid as it is stored. -/
def asRow? (j : Json) : Option Row := j.canonical.asMembers?

/-- Lists of options by the ids of fields; of a repeated id the last counts. -/
def asOptionLists? (j : Json) : Option (List (String × List Choice)) := do
  let members ← j.asMembers?
  let lists ← members.mapM fun m => (asList? Choice.ofJson? m.2).map fun cs => (m.1, cs)
  some (Keyed.ofList lists)

end Json

namespace Command

open Json (record? required defaulted optional asCount? asStr? asList?)

def bare (c : Command) (fields : Json) : Option Command := (record? [] fields).map fun _ => c

def withIndex (c : Nat → Command) (fields : Json) : Option Command := do
  let r ← record? ["index"] fields
  let index ← required r "index" asCount?
  some (c index)

def withFieldId (c : String → Command) (fields : Json) : Option Command := do
  let r ← record? ["field_id"] fields
  let fieldId ← required r "field_id" asStr?
  some (c fieldId)

/-- A role may be missing from an object but not from an array. -/
def roleOfFields? (fields : Json) : Option (Option String) :=
  match fields with
  | .arr [] => none
  | fields => (record? ["role"] fields).bind fun r => optional r "role" asStr?

def ofFields? (name : String) (fields : Json) : Option Command :=
  match name with
  | "load_schema" => do
      let r ← record? ["schema"] fields
      let document ← required r "schema" Json.asValue?
      some (.loadSchema document)
  | "set_external_data" => do
      let r ← record? ["rows"] fields
      let rows ← required r "rows" (asList? Json.asRow?)
      some (.perform (.supplyRows rows))
  | "set_lookup_options" => do
      let r ← record? ["options"] fields
      let options ← required r "options" Json.asOptionLists?
      some (.perform (.supplyOptions options))
  | "set_user_role" => (roleOfFields? fields).map fun role => .perform (.setRole role)
  | "update_cell" => do
      let r ← record? ["row", "field_id", "value"] fields
      let row ← required r "row" asCount?
      let fieldId ← required r "field_id" asStr?
      let value ← required r "value" Json.asValue?
      some (.updateCell row fieldId value)
  | "add_row" => bare (.perform (.edit .addRow)) fields
  | "remove_row" => withIndex (fun i => .perform (.edit (.removeRow i))) fields
  | "add_column" => do
      let r ← record? ["label"] fields
      let label ← defaulted r "label" "" asStr?
      some (.perform (.edit (.addColumn label)))
  | "remove_column" => withFieldId (fun id => .perform (.edit (.removeColumn id))) fields
  | "merge_rows" => bare (.perform (.edit .mergeRows)) fields
  | "split_row" => bare (.perform (.edit .splitRow)) fields
  | "merge_columns" => bare (.perform (.edit .mergeColumns)) fields
  | "split_column" => bare (.perform (.edit .splitColumn)) fields
  | "toggle_row_selection" => withIndex (fun i => .perform (.toggleRow i)) fields
  | "toggle_column_selection" => withFieldId (fun id => .perform (.toggleColumn id)) fields
  | "clear_selection" => bare (.perform .clearSelection) fields
  | "set_page" => do
      let r ← record? ["page"] fields
      let page ← required r "page" asCount?
      some (.perform (.setPage page))
  | "next_page" => bare (.perform .nextPage) fields
  | "prev_page" => bare (.perform .previousPage) fields
  | "undo" => bare (.perform .undo) fields
  | "redo" => bare (.perform .redo) fields
  | "get_snapshot" => bare .snapshot fields
  | "get_page_view" => bare .pageView fields
  | "get_cell_view" => do
      let r ← record? ["row", "field_id"] fields
      let row ← required r "row" asCount?
      let fieldId ← required r "field_id" asStr?
      some (.cellView row fieldId)
  | "export_rows" => bare .exportRows fields
  | "check_expression" => do
      let r ← record? ["source"] fields
      let source ← required r "source" asStr?
      some (.checkExpression source)
  | _ => none

/-- The command in a value.  The name may be given only once. -/
def ofJson? : Json → Option Command
  | .obj members =>
      match members.filter fun m => m.1 == "cmd" with
      | [(_, .str name)] => ofFields? name (.obj (members.filter fun m => m.1 != "cmd"))
      | _ => none
  | .arr (.str name :: items) => ofFields? name (.arr items)
  | _ => none

def ofLine? (line : String) : Option Command := (Json.parse? line).bind ofJson?

end Command

end RecordGrid
