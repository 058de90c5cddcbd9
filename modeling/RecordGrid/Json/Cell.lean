import RecordGrid.Json.Writing
import RecordGrid.Number.Reading
import RecordGrid.Text.Blank

/-!
# Stored values

A record keeps whatever a document, the host or a lookup put there.  These are
the readings of such a value that the grid agrees on: as a number, as blank,
and as text.
-/

namespace RecordGrid

namespace Number

/-- The number in a text, blanks around it aside.  Neither an infinity nor the
word for no number counts. -/
def ofText? (s : String) : Option Float :=
  (read? (Text.trim s)).filter isFinite

/-- A number as people read it: no exponent, no point on whole numbers; empty
when not finite. -/
def plainText (x : Float) : String :=
  if isFinite x then Layout.plain.text x else ""

end Number

namespace Json

/-- The value for a number: a whole number where it is one of at most 15
digits, else a double; null when not finite. -/
def ofNumber (x : Float) : Json :=
  if Number.isWhole x && decide (x.abs < 9.0e15) then .int (Number.toInt x)
  else if Number.isFinite x then .float x
  else .null

/-- The number in a value; texts of numbers count, blanks do not. -/
def numeric? : Json → Option Float
  | .str s => Number.ofText? s
  | j => j.asNumber?

/-- Null and the empty text both mean that there is no value. -/
def isBlank : Json → Bool
  | .null => true
  | .str s => s.isEmpty
  | _ => false

def boolText (b : Bool) : String := if b then "true" else "false"

mutual

/-- The text of a value in a cell: a number as people read it, a file by its
name, the items of a list side by side. -/
def displayText : Json → String
  | .null => ""
  | .str s => s
  | .bool b => boolText b
  | .int n => Number.plainText (Float.ofInt n)
  | .float x => Number.plainText x
  | .obj members =>
      match Keyed.get? members "name" with
      | some (.str name) => name
      | _ => compact (.obj members)
  | .arr items => ",".intercalate (displayItems items)

def displayItems : List Json → List String
  | [] => []
  | j :: rest => displayText j :: displayItems rest

end

/-- The text of a value as the parameter of a lookup. -/
def queryText : Json → String
  | .null => "null"
  | j => j.displayText

/-- The value in the answer to a lookup: a scalar, bare or under `value`. -/
def lookupAnswer? (body : Json) : Option Json :=
  let candidate :=
    match body with
    | .obj members => Keyed.get? members "value"
    | j => some j
  match candidate with
  | some (.str s) => some (.str s)
  | some (.int n) => some (.int n)
  | some (.float x) => some (.float x)
  | some (.bool b) => some (.bool b)
  | _ => none

end Json

end RecordGrid
