import RecordGrid.Field.Asset
import RecordGrid.Field.EditError
import RecordGrid.Schema.Column

/-!
# Field behaviors

What a cell of a certain type does with an edit: the value that is stored for
what was entered, whether a stored value is valid, the text that is shown and
the choices that are offered.  A value that is not valid is kept and flagged.
These are the behaviors that come with the grid.  A host may write others, and they
are not described here.
-/

namespace RecordGrid

/-- The family of a field type. -/
inductive FieldKind where
  | freeText
  | numeric
  | boolean
  | enumerated
  | binaryAsset
  | derived
  | unknown
deriving DecidableEq, Repr

/-- Where a choice takes its options from: the column, or the host. -/
inductive OptionSource where
  | column
  | supplied
deriving DecidableEq, Repr

inductive Behavior where
  | text
  | number
  | boolean
  | choice (source : OptionSource)
  | formula
  | asset
  | signature
  | unknown
deriving DecidableEq, Repr

/-- What a behavior sees of a cell: its column, and the options that the host
has supplied for the field. -/
structure FieldContext where
  column : Column
  supplied : Option (List Choice) := none

namespace Behavior

def kind : Behavior → FieldKind
  | .text => .freeText
  | .number => .numeric
  | .boolean => .boolean
  | .choice _ => .enumerated
  | .formula => .derived
  | .asset => .binaryAsset
  | .signature => .binaryAsset
  | .unknown => .unknown

/-- Whether edits are refused whatever the column says. -/
def isReadOnly (b : Behavior) : Bool :=
  match b.kind with
  | .derived => true
  | .unknown => true
  | _ => false

def options (b : Behavior) (ctx : FieldContext) : List Choice :=
  match b with
  | .choice .column => ctx.column.options
  | .choice .supplied => ctx.supplied.getD []
  | _ => []

/-- Whether a choice may be stored: the empty one, one of the options, and any
at all as long as the host has supplied none. -/
def admitsChoice (source : OptionSource) (ctx : FieldContext) (choice : String) : Bool :=
  choice.isEmpty ||
    (source == .supplied && (ctx.supplied.getD []).isEmpty) ||
    ((Behavior.choice source).options ctx).any fun o => o.value == choice

def coerceText (ctx : FieldContext) (raw : Json) : Except EditError Json :=
  let limited (s : String) : Json :=
    .str (ctx.column.maxLength.elim s fun limit => String.ofList (s.toList.take limit))
  match raw with
  | .arr _ | .obj _ => .error (.invalidValue ctx.column.fieldId .severalValues)
  | raw => .ok (limited raw.displayText)

def coerceNumber (ctx : FieldContext) (raw : Json) : Except EditError Json :=
  match raw with
  | .null => .ok .null
  | .int n => .ok (.int n)
  | .float x => .ok (.float x)
  | .str s =>
      if Text.allBlank s then .ok .null
      else
        match Number.ofText? s with
        | some x => .ok (.ofNumber x)
        | none => .error (.invalidNumber ctx.column.fieldId s)
  | other => .error (.invalidNumber ctx.column.fieldId other.compact)

/-- The words for yes and no. -/
def flagWords : List (String × Bool) :=
  [("true", true), ("1", true), ("yes", true), ("on", true), ("false", false), ("0", false),
    ("no", false), ("off", false), ("", false)]

def coerceBoolean (ctx : FieldContext) (raw : Json) : Except EditError Json :=
  match raw with
  | .bool b => .ok (.bool b)
  | .null => .ok (.bool false)
  | .int n => .ok (.bool (n != 0))
  | .float x => .ok (.bool (x != 0.0))
  | .str s =>
      match flagWords.lookup (Text.toAsciiLower (Text.trim s)) with
      | some b => .ok (.bool b)
      | none => .error (.invalidValue ctx.column.fieldId (.notYesNo s))
  | _ => .error (.invalidValue ctx.column.fieldId .notAFlag)

def coerceChoice (source : OptionSource) (ctx : FieldContext) (raw : Json) :
    Except EditError Json :=
  match raw with
  | .arr _ | .obj _ => .error (.invalidValue ctx.column.fieldId .severalChoices)
  | raw =>
      if admitsChoice source ctx raw.displayText then .ok (.str raw.displayText)
      else .error (.invalidOption ctx.column.fieldId raw.displayText)

def bytesPerMb : Float := 1048576.0

/-- Whether a file is over the size that a column allows.  A limit that is not
above zero is none. -/
def exceeds (maxMb : Float) (sizeBytes : Nat) : Bool :=
  decide (0.0 < maxMb) && decide (maxMb * bytesPerMb < Float.ofNat sizeBytes)

def coerceAsset (ctx : FieldContext) (raw : Json) : Except EditError Json :=
  match raw with
  | .null => .ok .null
  | raw =>
      match Asset.ofJson? raw with
      | none => .error (.invalidValue ctx.column.fieldId .notAFile)
      | some a =>
          match ctx.column.maxSizeMb.filter fun maxMb => exceeds maxMb a.sizeBytes with
          | some maxMb => .error (.assetTooLarge ctx.column.fieldId maxMb a.sizeBytes)
          | none =>
              if ctx.column.fileTypes.isEmpty || ctx.column.fileTypes.any a.isAcceptedBy then
                .ok a.toJson
              else .error (.assetTypeRejected ctx.column.fieldId ctx.column.fileTypes)

def coerceSignature (ctx : FieldContext) (raw : Json) : Except EditError Json :=
  match raw with
  | .null => .ok .null
  | .str s =>
      if s.isEmpty then .ok .null
      else if "data:".toList.isPrefixOf s.toList then .ok (.str s)
      else .error (.invalidValue ctx.column.fieldId .notADataUrl)
  | _ => .error (.invalidValue ctx.column.fieldId .notADataUrl)

/-- The value that is stored for what was entered. -/
def coerce (b : Behavior) (ctx : FieldContext) (raw : Json) : Except EditError Json :=
  match b with
  | .text => coerceText ctx raw
  | .number => coerceNumber ctx raw
  | .boolean => coerceBoolean ctx raw
  | .choice source => coerceChoice source ctx raw
  | .formula => .error (.readOnly ctx.column.fieldId)
  | .asset => coerceAsset ctx raw
  | .signature => coerceSignature ctx raw
  | .unknown => .error (.readOnly ctx.column.fieldId)

/-- Whether a stored value is one that the column wants. -/
def isValid (b : Behavior) (ctx : FieldContext) (value : Json) : Bool :=
  match b with
  | .number =>
      value.isBlank ||
        value.numeric?.any fun x => ctx.column.validation.all fun bounds => bounds.contains x
  | .choice source => admitsChoice source ctx value.displayText
  | _ => true

def display (b : Behavior) (ctx : FieldContext) (value : Json) : String :=
  match b with
  | .number =>
      match value.numeric?, ctx.column.precision with
      | some x, some decimals => Number.fixedText x decimals
      | _, _ => value.displayText
  | .choice _ =>
      match (b.options ctx).find? fun o => o.value == value.displayText with
      | some o => o.label
      | none => value.displayText
  | .signature => if value.isBlank then "" else "signed"
  | _ => value.displayText

end Behavior

end RecordGrid
