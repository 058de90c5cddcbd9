import RecordGrid.Json.Basic
import RecordGrid.Text.Blank

/-!
# Columns

One column of the grid.  The id of its field is the identity of the column and
the key under which every record holds the value of the column.
-/

namespace RecordGrid

structure Bounds where
  min : Option Float := none
  max : Option Float := none
deriving BEq

def Bounds.contains (b : Bounds) (x : Float) : Bool :=
  (b.min.all fun low => decide (low ≤ x)) && (b.max.all fun high => decide (x ≤ high))

structure Choice where
  label : String
  value : String
deriving DecidableEq, Repr

structure Column where
  fieldId : String := ""
  fieldName : String := ""
  fieldType : String := ""
  unit : Option String := none
  precision : Option Nat := none
  required : Bool := false
  readOnly : Bool := false
  defaultValue : Option Json := none
  validation : Option Bounds := none
  options : List Choice := []
  formula : Option String := none
  endpoint : Option String := none
  bindField : Option String := none
  multiline : Bool := false
  maxLength : Option Nat := none
  rows : Option Nat := none
  captureCamera : Bool := false
  fileTypes : List String := []
  maxSizeMb : Option Float := none
  signedByRole : List String := []
  visibilityCondition : Option String := none
deriving BEq

namespace Column

/-- A column without optional settings. -/
def plain (fieldId fieldName fieldType : String) : Column :=
  { fieldId, fieldName, fieldType }

/-- A text with something besides blanks in it, without the blanks around it. -/
def content? (text : Option String) : Option String :=
  (text.map Text.trim).filter fun s => !s.isEmpty

def lookupEndpoint? (c : Column) : Option String := content? c.endpoint

/-- Whether an edit of `source` starts a lookup for the column. -/
def isEnrichedFrom (c : Column) (source : String) : Bool :=
  c.lookupEndpoint?.isSome && c.bindField == some source

/-- Whether a session with this role may edit the column.  Without a list of
roles everyone may. -/
def permitsRole (c : Column) (role : Option String) : Bool :=
  c.signedByRole.isEmpty || c.signedByRole.contains (role.getD "")

def formulaSource? (c : Column) : Option String := content? c.formula

def visibilitySource? (c : Column) : Option String := content? c.visibilityCondition

end Column

end RecordGrid
