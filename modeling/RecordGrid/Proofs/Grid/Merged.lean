import RecordGrid.Proofs.Grid.Edits

/-!
# Merged columns

A merge that is made keeps one of two columns, with its id, and joins the texts
of both under it in every record.
-/

namespace RecordGrid

/-- The value that a merge leaves under the column it keeps. -/
def Row.joined (row : Row) (kept dropped : String) : Json :=
  .str (Text.trim (row.textAt kept ++ " " ++ row.textAt dropped))

namespace Grid

variable {g : Grid}

/-- One column has been folded into another. -/
structure Merged (kept dropped : Column) (before after : Grid) : Prop where
  keptAt :
    before.columns[(mergeTargets before.columns.length before.selectedPositions).1]? = some kept
  droppedAt :
    before.columns[(mergeTargets before.columns.length before.selectedPositions).2]? =
      some dropped
  rows : after.rows = before.rows.map fun row => Row.fold row kept.fieldId dropped.fieldId
  stays : after.hasColumn kept.fieldId = true

theorem merged_of_committed (hchange : g.mergeColumns.change.isNone = false) :
    ∃ kept dropped, g.Merged kept dropped g.mergeColumns.grid := by
  unfold mergeColumns at hchange ⊢
  cases htargets : mergeTargets g.columns.length g.selectedPositions with
  | mk lower upper =>
      simp only [htargets] at hchange ⊢
      split at hchange
      · rename_i kept dropped hkept hdropped
        split at hchange
        · rename_i htwo
          obtain ⟨hlower, -⟩ := mergeTargets_lt htwo g.selectedPositions
          rw [htargets] at hlower
          refine ⟨kept, dropped, ⟨?_, ?_, ?_, ?_⟩⟩
          · rw [htargets]
            exact hkept
          · rw [htargets]
            exact hdropped
          · simp only [htwo, if_true, Transition.ofColumns, clearSelection]
          · have hplace : lower < (g.columns.eraseIdx upper).length := by
              have hsame := List.getElem?_eraseIdx_of_lt (l := g.columns) hlower
              rw [hkept] at hsame
              exact (List.getElem?_eq_some_iff.1 hsame).1
            simp only [htwo, if_true, Transition.ofColumns, hasColumn, List.any_eq_true]
            exact ⟨_, List.mem_set hplace _, beq_self_eq_true _⟩
        · cases hchange
      · cases hchange

theorem Merged.record
    {kept dropped : Column} {after : Grid} (hmerged : g.Merged kept dropped after)
    {row : Nat} {record : Row} (hrecord : g.rows[row]? = some record) :
    after.rows[row]? = some (record.fold kept.fieldId dropped.fieldId) := by
  rw [hmerged.rows, List.getElem?_map, hrecord, Option.map_some]

theorem Merged.cell?_kept
    {kept dropped : Column} {after : Grid} (hmerged : g.Merged kept dropped after)
    {row : Nat} {record : Row} (hrecord : g.rows[row]? = some record) :
    after.cell? ⟨row, kept.fieldId⟩ = some (record.joined kept.fieldId dropped.fieldId) := by
  simp only [cell?, hmerged.record hrecord, Option.bind_some, Row.fold, Keyed.get?_insert,
    if_true, Row.joined]

theorem Merged.two_le
    {kept dropped : Column} (hmerged : g.Merged kept dropped g.mergeColumns.grid)
    (hchange : g.mergeColumns.change.isNone = false) : 2 ≤ g.columns.length := by
  by_contra hfew
  simp [mergeColumns, hmerged.keptAt, hmerged.droppedAt, hfew, Transition.unchanged,
    Change.isNone] at hchange

/-- The kept column stays where it is and as it is, but for its name. -/
theorem Merged.columns_mergeColumns
    {kept dropped : Column} (hmerged : g.Merged kept dropped g.mergeColumns.grid)
    (hchange : g.mergeColumns.change.isNone = false) :
    let lower := (mergeTargets g.columns.length g.selectedPositions).1
    ∃ rest, g.mergeColumns.grid.columns =
      g.columns.take lower ++
        { kept with fieldName := kept.fieldName ++ "/" ++ dropped.fieldName } :: rest := by
  have htwo := hmerged.two_le hchange
  obtain ⟨hkept, hdropped, -, -⟩ := hmerged
  intro lower
  obtain ⟨hlower, hupper⟩ := mergeTargets_lt htwo g.selectedPositions
  set upper := (mergeTargets g.columns.length g.selectedPositions).2
  have hplace : lower < (g.columns.eraseIdx upper).length := by
    rw [List.length_eraseIdx_of_lt hupper]
    omega
  refine ⟨(g.columns.eraseIdx upper).drop (lower + 1), ?_⟩
  rw [← List.take_eraseIdx_eq_take_of_le g.columns lower upper (Nat.le_of_lt hlower)]
  simp only [mergeColumns, hkept, hdropped, htwo, if_true, Transition.ofColumns,
    List.set_eq_take_append_cons_drop, hplace, lower, upper]

end Grid
end RecordGrid
