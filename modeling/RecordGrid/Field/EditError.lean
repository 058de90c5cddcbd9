import RecordGrid.Json.Cell

/-!
# Refused edits

Why an edit of a cell is refused, and the text that says so.  Two of the causes
concern a picked file and are meant for the person who picked it.
-/

namespace RecordGrid

/-- What is wrong with a value that no column of its kind takes. -/
inductive InvalidReason where
  | severalValues
  | notYesNo (text : String)
  | notAFlag
  | severalChoices
  | notAFile
  | notADataUrl
deriving DecidableEq, Repr

inductive EditError where
  | rowOutOfRange (row : Nat)
  | unknownField (fieldId : String)
  | readOnly (fieldId : String)
  | hidden (fieldId : String)
  | invalidNumber (fieldId : String) (value : String)
  | invalidOption (fieldId : String) (value : String)
  | invalidValue (fieldId : String) (reason : InvalidReason)
  | assetTooLarge (fieldId : String) (maxMb : Float) (sizeBytes : Nat)
  | assetTypeRejected (fieldId : String) (allowed : List String)
deriving DecidableEq

def InvalidReason.message : InvalidReason → String
  | .severalValues => "text fields take a single value"
  | .notYesNo text => "'" ++ text ++ "' is not a yes/no value"
  | .notAFlag => "expected a yes/no value"
  | .severalChoices => "expected a single choice"
  | .notAFile => "not a file descriptor"
  | .notADataUrl => "signature must be a data URL"

namespace EditError

def message : EditError → String
  | .rowOutOfRange row => "row " ++ toString row ++ " does not exist"
  | .unknownField fieldId => "unknown field '" ++ fieldId ++ "'"
  | .readOnly fieldId => "field '" ++ fieldId ++ "' is read-only"
  | .hidden fieldId => "field '" ++ fieldId ++ "' is hidden for this row"
  | .invalidNumber _ value => "'" ++ value ++ "' is not a number"
  | .invalidOption fieldId value =>
      "'" ++ value ++ "' is not an allowed option for '" ++ fieldId ++ "'"
  | .invalidValue fieldId reason =>
      "invalid value for '" ++ fieldId ++ "': " ++ reason.message
  | .assetTooLarge _ maxMb _ =>
      "File too large. Max " ++ Number.Layout.plain.text maxMb ++ "MB"
  | .assetTypeRejected _ allowed =>
      "File type not accepted. Allowed: " ++ ",".intercalate allowed

/-- Whether the refusal is a notice for the person who edits. -/
def isNotice : EditError → Bool
  | .assetTooLarge .. => true
  | .assetTypeRejected .. => true
  | _ => false

end EditError

end RecordGrid
