import RecordGrid.View.Cell

/-!
# Which check refuses an edit

An edit is checked three times: there has to be such a cell, the session has to
have access to it, and the field has to take the value.  The error tells which
check has refused the edit, and it names the cell.
-/

namespace RecordGrid

/-- What an edit is checked for, in this order. -/
inductive EditCheck where
  | cell
  | access
  | value
deriving DecidableEq, Repr

namespace EditError

def check : EditError → EditCheck
  | .rowOutOfRange _ | .unknownField _ => .cell
  | .readOnly _ | .hidden _ => .access
  | .invalidNumber .. | .invalidOption .. | .invalidValue .. => .value
  | .assetTooLarge .. | .assetTypeRejected .. => .value

/-- The error names the record, or the field. -/
def Names (row : Nat) (fieldId : String) : EditError → Prop
  | .rowOutOfRange i => i = row
  | .unknownField id | .readOnly id | .hidden id => id = fieldId
  | .invalidNumber id _ | .invalidOption id _ | .invalidValue id _ => id = fieldId
  | .assetTooLarge id _ _ | .assetTypeRejected id _ => id = fieldId

/-- The value is refused, and nothing else about the edit. -/
structure RefusesValue (fieldId : String) (e : EditError) : Prop where
  check : e.check = .value
  names : ∀ row, e.Names row fieldId

end EditError

namespace Behavior

variable {ctx : FieldContext} {raw : Json} {e : EditError}

theorem refusesValue_of_coerceText (herror : coerceText ctx raw = .error e) :
    e.RefusesValue ctx.column.fieldId := by
  unfold coerceText at herror
  cases raw <;> cases herror <;> exact ⟨rfl, fun _ => rfl⟩

theorem refusesValue_of_coerceNumber (herror : coerceNumber ctx raw = .error e) :
    e.RefusesValue ctx.column.fieldId := by
  unfold coerceNumber at herror
  split at herror
  · cases herror
  · cases herror
  · cases herror
  · split at herror
    · cases herror
    · split at herror
      · cases herror
      · cases herror
        exact ⟨rfl, fun _ => rfl⟩
  · cases herror
    exact ⟨rfl, fun _ => rfl⟩

theorem refusesValue_of_coerceBoolean (herror : coerceBoolean ctx raw = .error e) :
    e.RefusesValue ctx.column.fieldId := by
  unfold coerceBoolean at herror
  split at herror
  · cases herror
  · cases herror
  · cases herror
  · cases herror
  · split at herror
    · cases herror
    · cases herror
      exact ⟨rfl, fun _ => rfl⟩
  · cases herror
    exact ⟨rfl, fun _ => rfl⟩

theorem refusesValue_of_coerceChoice
    {source : OptionSource} (herror : coerceChoice source ctx raw = .error e) :
    e.RefusesValue ctx.column.fieldId := by
  unfold coerceChoice at herror
  split at herror
  · cases herror
    exact ⟨rfl, fun _ => rfl⟩
  · cases herror
    exact ⟨rfl, fun _ => rfl⟩
  · split at herror
    · cases herror
    · cases herror
      exact ⟨rfl, fun _ => rfl⟩

theorem refusesValue_of_coerceAsset (herror : coerceAsset ctx raw = .error e) :
    e.RefusesValue ctx.column.fieldId := by
  unfold coerceAsset at herror
  split at herror
  · cases herror
  · split at herror
    · cases herror
      exact ⟨rfl, fun _ => rfl⟩
    · split at herror
      · cases herror
        exact ⟨rfl, fun _ => rfl⟩
      · split at herror
        · cases herror
        · cases herror
          exact ⟨rfl, fun _ => rfl⟩

theorem refusesValue_of_coerceSignature (herror : coerceSignature ctx raw = .error e) :
    e.RefusesValue ctx.column.fieldId := by
  unfold coerceSignature at herror
  split at herror
  · cases herror
  · split at herror
    · cases herror
    · split at herror
      · cases herror
      · cases herror
        exact ⟨rfl, fun _ => rfl⟩
  · cases herror
    exact ⟨rfl, fun _ => rfl⟩

/-- A field that takes edits at all refuses one for its value only. -/
theorem refusesValue_of_coerce
    {b : Behavior} (hopen : b.isReadOnly = false) (herror : b.coerce ctx raw = .error e) :
    e.RefusesValue ctx.column.fieldId := by
  cases b with
  | text => exact refusesValue_of_coerceText herror
  | number => exact refusesValue_of_coerceNumber herror
  | boolean => exact refusesValue_of_coerceBoolean herror
  | choice source => exact refusesValue_of_coerceChoice herror
  | formula => cases hopen
  | asset => exact refusesValue_of_coerceAsset herror
  | signature => exact refusesValue_of_coerceSignature herror
  | unknown => cases hopen

end Behavior

namespace Viewer

variable {v : Viewer} {c : Column} {derived : Row}

/-- A column that is not barred has a behavior that takes edits. -/
theorem isReadOnly_of_refusal?_eq_none (hopen : v.refusal? c derived = none) :
    (v.behavior c).isReadOnly = false := by
  unfold refusal? at hopen
  split at hopen
  · cases hopen
  · rename_i hwritable
    simp only [Bool.or_eq_true, not_or, Bool.not_eq_true] at hwritable
    exact hwritable.1.2

theorem of_refusal?_eq_some {e : EditError} (hbarred : v.refusal? c derived = some e) :
    e.check = .access ∧ ∀ row, e.Names row c.fieldId := by
  unfold refusal? at hbarred
  split at hbarred
  · cases hbarred
    exact ⟨rfl, fun _ => rfl⟩
  · split at hbarred
    · cases hbarred
      exact ⟨rfl, fun _ => rfl⟩
    · cases hbarred

end Viewer

end RecordGrid
