import RecordGrid.Proofs.Number.WholeText
import RecordGrid.Schema.Reading

/-!
# Scalars as texts

A scalar has a text for people and a text that a schema document gives it where
it wants a string.  The first takes a number for the double that is nearest to
it and leaves a point out where nothing is behind it; the second is the JSON
text of the number.  They are the same for most scalars, but not for large whole
numbers and not for doubles that are whole.
-/

namespace RecordGrid.Json

theorem compact_int (n : Int) : compact (.int n) = toString n := by
  rw [compact, Number.toString_int]

theorem displayText_int {n : Int} (hn : n.natAbs ≤ 2 ^ 53) :
    displayText (.int n) = toString n := by
  rw [displayText, Number.plainText_ofInt hn]

theorem queryText_int {n : Int} (hn : n.natAbs ≤ 2 ^ 53) : queryText (.int n) = toString n :=
  displayText_int hn

/-- Scalars whose two texts are the same: numbers have to be small enough to keep
their digits, and a double has to have a point. -/
inductive HasOneText : Json → Prop
  | null : HasOneText .null
  | bool (b : Bool) : HasOneText (.bool b)
  | str (s : String) : HasOneText (.str s)
  | int {n : Int} (hn : n.natAbs ≤ 2 ^ 53) : HasOneText (.int n)
  | float {x : Float} (hx : Number.hasPoint x = true) : HasOneText (.float x)

theorem HasOneText.asScalarText?_eq {j : Json} (hj : j.HasOneText) :
    j.asScalarText? = some j.displayText := by
  cases hj with
  | null => rfl
  | bool b => rfl
  | str s => rfl
  | int hn => rw [asScalarText?, compact_int, displayText_int hn]
  | float hx =>
      have hfinite := Number.isFinite_of_hasPoint hx
      rw [asScalarText?, compact, if_pos hfinite, displayText, Number.plainText, if_pos hfinite,
        Number.text_json_of_hasPoint hx]

/-- A double that is a whole number keeps a point in JSON text only. -/
theorem texts_of_whole_float {n : Int} (hn : n.natAbs ≤ 2 ^ 53) :
    displayText (.float (Float.ofInt n)) = toString n ∧
      asScalarText? (.float (Float.ofInt n)) = some (toString n ++ ".0") := by
  refine ⟨Number.plainText_ofInt hn, ?_⟩
  rw [asScalarText?, compact, if_pos (Number.isFinite_ofInt hn),
    Number.Layout.text_ofInt Number.writesWhole_json hn]
  rfl

end RecordGrid.Json
