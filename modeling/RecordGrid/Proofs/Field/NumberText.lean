import RecordGrid.Proofs.Field.Settled
import RecordGrid.Proofs.Grid.Merged
import RecordGrid.Proofs.Json.ScalarText

/-!
# Numbers as texts

A number becomes a text where it is shown, where it is the parameter of a
lookup, where it is entered into a column of texts and where two columns are
merged.  All four take the text of the double that is nearest to it, while JSON
text has the digits of the number itself.
-/

namespace RecordGrid

theorem Row.textAt_int
    {n : Int} (hn : n.natAbs ≤ 2 ^ 53) {row : Row} {fieldId : String}
    (hvalue : Keyed.get? row fieldId = some (.int n)) : row.textAt fieldId = toString n := by
  rw [textAt, hvalue, Option.elim_some, Json.displayText_int hn]

theorem Behavior.coerce_text_int {n : Int} (hn : n.natAbs ≤ 2 ^ 53) (ctx : FieldContext) :
    text.coerce ctx (.int n) = .ok (.str (ctx.column.limited (toString n))) := by
  rw [← Json.displayText_int hn]
  rfl

namespace Grid

/-- Up to `2 ^ 53` the text of a whole number has its exact digits: where it is
shown, as the parameter of a lookup, in a column of texts, and in a merge. -/
theorem whole_number_text {n : Int} (hn : n.natAbs ≤ 2 ^ 53) :
    (Json.int n).displayText = toString n ∧
    (Json.int n).queryText = toString n ∧
    (∀ ctx : FieldContext,
      Behavior.text.coerce ctx (.int n) = .ok (.str (ctx.column.limited (toString n)))) ∧
    ∀ g : Grid, g.mergeColumns.change.isNone = false →
      ∃ kept dropped, g.Merged kept dropped g.mergeColumns.grid ∧
        ∀ (row : Nat) (record : Row), g.rows[row]? = some record →
          let joined (left right : String) : Json := .str (Text.trim (left ++ " " ++ right))
          let cell := g.mergeColumns.grid.cell? ⟨row, kept.fieldId⟩
          (Keyed.get? record kept.fieldId = some (.int n) →
            cell = some (joined (toString n) (record.textAt dropped.fieldId))) ∧
          (Keyed.get? record dropped.fieldId = some (.int n) →
            cell = some (joined (record.textAt kept.fieldId) (toString n))) := by
  refine ⟨Json.displayText_int hn, Json.queryText_int hn, Behavior.coerce_text_int hn, ?_⟩
  intro g hchange
  obtain ⟨kept, dropped, hmerged⟩ := merged_of_committed hchange
  refine ⟨kept, dropped, hmerged, ?_⟩
  intro row record hrecord joined cell
  have hcell : cell = some (record.joined kept.fieldId dropped.fieldId) :=
    hmerged.cell?_kept hrecord
  rw [hcell, Row.joined]
  constructor
  · intro hvalue
    rw [Row.textAt_int hn hvalue]
  · intro hvalue
    rw [Row.textAt_int hn hvalue]

/-- Lot numbers next to the years of the lots. -/
def lots : Grid where
  columns := [.plain "lot" "Lot" "number", .plain "year" "Year" "number"]
  rows := [[("lot", .int 9007199254740991), ("year", .int (-44))]]

/-- A lot number close to the bound, and a year before the first one. -/
theorem whole_number_text_in_lots :
    (Json.int 9007199254740991).queryText = "9007199254740991" ∧
      (Json.int (-44)).displayText = "-44" ∧
      lots.mergeColumns.grid.cell? ⟨0, "lot"⟩ = some (.str "9007199254740991 -44") := by
  obtain ⟨-, hquery, -, hmerge⟩ := whole_number_text (n := 9007199254740991) (by decide)
  obtain ⟨hshown, -⟩ := whole_number_text (n := -44) (by decide)
  obtain ⟨kept, dropped, hmerged, hcells⟩ := hmerge lots rfl
  have hkept : kept = .plain "lot" "Lot" "number" := (Option.some.inj hmerged.keptAt).symm
  have hdropped : dropped = .plain "year" "Year" "number" :=
    (Option.some.inj hmerged.droppedAt).symm
  subst hkept hdropped
  obtain ⟨hcell, -⟩ := hcells 0 _ rfl
  refine ⟨hquery, hshown, (hcell rfl).trans ?_⟩
  change some (Json.str (Text.trim ("9007199254740991 " ++ (Json.int (-44)).displayText))) = _
  rw [hshown]
  rfl

/-- The number after `2 ^ 53` has no double of its own and takes the text of the
number before it. -/
theorem text_of_next_whole_number :
    let n : Int := 9007199254740993
    n < 2 ^ 64 ∧ -2 ^ 63 ≤ n ∧ toString n = "9007199254740993" ∧
      (Json.int n).displayText = "9007199254740992" ∧
      (Json.int n).queryText = "9007199254740992" ∧
      Behavior.text.coerce { column := .plain "lot" "Lot" "text" } (.int n) =
        .ok (.str "9007199254740992") := by
  intro n
  have hshown : (Json.int n).displayText = "9007199254740992" := by
    change (Json.int 9007199254740993).displayText = _
    rfl
  refine ⟨by decide, by decide, by decide, hshown, hshown, ?_⟩
  change Except.ok (Json.str (Json.int n).displayText) = _
  rw [hshown]

end Grid
end RecordGrid
