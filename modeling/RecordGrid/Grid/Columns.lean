import RecordGrid.Grid.FieldId
import RecordGrid.Grid.Transition
import RecordGrid.Json.Cell

/-!
# Edits of columns
-/

namespace RecordGrid

/-- The text of a value in a record, empty where there is none. -/
def Row.textAt (row : Row) (fieldId : String) : String :=
  (Keyed.get? row fieldId).elim "" Json.displayText

/-- A record with one field folded into another. -/
def Row.fold (row : Row) (kept dropped : String) : Row :=
  Keyed.insert kept (.str (Text.trim (row.textAt kept ++ " " ++ row.textAt dropped)))
    (Keyed.erase dropped row)

/-- A record with the value of one field under another as well. -/
def Row.copied (row : Row) (source target : String) : Row :=
  (Keyed.get? row source).elim row fun value => Keyed.insert target value row

namespace Grid

def fieldIds (g : Grid) : List String := g.columns.map (·.fieldId)

def newLabel (g : Grid) (label : String) : String :=
  if Text.allBlank label then "Column " ++ toString (g.columns.length + 1) else Text.trim label

/-- Appends a text column, empty in every record. -/
def addColumn (label : String) (g : Grid) : Transition :=
  let label := g.newLabel label
  let id := uniqueFieldId g.fieldIds (fieldIdFromLabel label)
  .ofColumns
    { g with
      columns := g.columns ++ [.plain id label "text"]
      rows := g.rows.map (Keyed.insert id (.str "")) }

def removeColumn (fieldId : String) (g : Grid) : Transition :=
  match g.columnIndex? fieldId with
  | some i =>
      .ofColumns
        { g with
          columns := g.columns.eraseIdx i
          rows := g.rows.map (Keyed.erase fieldId)
          selectedCols := Ascending.erase fieldId g.selectedCols }
  | none => .unchanged g

/-- Folds two columns into the first of them. -/
def mergeColumns (g : Grid) : Transition :=
  let (lower, upper) := mergeTargets g.columns.length g.selectedPositions
  match g.columns[lower]?, g.columns[upper]? with
  | some kept, some dropped =>
      if 2 ≤ g.columns.length then
        .ofColumns
          { g.clearSelection with
            columns := (g.columns.eraseIdx upper).set lower
              { kept with fieldName := kept.fieldName ++ "/" ++ dropped.fieldName }
            rows := g.rows.map fun row => Row.fold row kept.fieldId dropped.fieldId }
      else .unchanged g
  | _, _ => .unchanged g

/-- Repeats a column right behind itself, with its values. -/
def splitColumn (g : Grid) : Transition :=
  let position := splitTarget g.columns.length g.selectedPositions
  match g.columns[position]? with
  | some source =>
      let id := uniqueFieldId g.fieldIds (source.fieldId ++ "_copy")
      .ofColumns
        { g.clearSelection with
          columns := g.columns.insertIdx (position + 1)
            { source with fieldId := id, fieldName := source.fieldName ++ " Copy" }
          rows := g.rows.map fun row => Row.copied row source.fieldId id }
  | none => .unchanged g

end Grid

end RecordGrid
