import RecordGrid.Field.Registry
import RecordGrid.Layout.Header
import RecordGrid.Layout.Page
import RecordGrid.View.Expressions

/-!
# Views

Records hold what was entered.  What is shown of a cell also depends on the
type of its field, on formulas and conditions, and on who looks.  The same
rules decide whether an edit is let through.
-/

namespace RecordGrid

structure CellView where
  fieldId : String
  fieldType : String
  kind : FieldKind
  visible : Bool
  editable : Bool
  /-- The stored value, or that of the formula. -/
  value : Json
  display : String
  valid : Bool
  options : List Choice
  unit : Option String

structure RowView where
  index : Nat
  selected : Bool
  cells : List CellView

structure PageView where
  page : PageInfo
  header : HeaderLayout
  rows : List RowView

/-- Everything besides the record that a view of it depends on. -/
structure Viewer where
  registry : Registry
  expressions : Expressions
  /-- Options that the host has supplied, by the ids of fields. -/
  supplied : List (String × List Choice)
  role : Option String

namespace Viewer

def behavior (v : Viewer) (c : Column) : Behavior := v.registry.resolve c.fieldType

def context (v : Viewer) (c : Column) : FieldContext := ⟨c, Keyed.get? v.supplied c.fieldId⟩

/-- The record with the value of one column filled in, where it is derived. -/
def deriveColumn (v : Viewer) (row : Row) (c : Column) : Row :=
  if (v.behavior c).kind = .derived then
    Keyed.insert c.fieldId (v.expressions.formulaValue c row).toJson row
  else row

/-- The record with the values of formulas filled in, in the order of the
columns, so that a formula sees the values of those before it. -/
def derive (v : Viewer) (columns : List Column) (row : Row) : Row :=
  columns.foldl v.deriveColumn row

/-- Why an edit of a cell is refused whatever is entered, where it is.  The
record is the derived one. -/
def refusal? (v : Viewer) (c : Column) (derived : Row) : Option EditError :=
  if c.readOnly || (v.behavior c).isReadOnly || !c.permitsRole v.role then
    some (.readOnly c.fieldId)
  else if !v.expressions.isVisible c derived then some (.hidden c.fieldId)
  else none

def derivedNumber (c : Column) (x : Float) : String :=
  match c.precision with
  | some decimals => Number.fixedText x decimals
  | none => Number.plainText x

def derivedText (c : Column) : Json → String
  | .str s => s
  | .bool b => Json.boolText b
  | .int n => derivedNumber c (Float.ofInt n)
  | .float x => derivedNumber c x
  | _ => ""

def cell (v : Viewer) (c : Column) (derived : Row) : CellView :=
  let b := v.behavior c
  let ctx := v.context c
  let value := (Keyed.get? derived c.fieldId).getD .null
  { fieldId := c.fieldId
    fieldType := c.fieldType
    kind := b.kind
    visible := v.expressions.isVisible c derived
    editable := (v.refusal? c derived).isNone
    value := value
    display := if b.kind = .derived then derivedText c value else b.display ctx value
    valid := b.isValid ctx value && !(c.required && value.isBlank)
    options := b.options ctx
    unit := c.unit }

def row (v : Viewer) (columns : List Column) (index : Nat) (record : Row) (selected : Bool) :
    RowView :=
  let derived := v.derive columns record
  ⟨index, selected, columns.map fun c => v.cell c derived⟩

end Viewer

end RecordGrid
