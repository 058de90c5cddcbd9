import RecordGrid.Proofs.Grid.Consistent

/-!
# What edits touch

An edit that is refused leaves the grid alone.  Any other edit says that it
touched what edits of its kind touch, and everything else stays as it was.  An edit
of columns keeps the number of records, one of records changes it by one.
-/

namespace RecordGrid

variable {p : Policy} {g : Grid}

namespace Grid

/-! ## Edits of records that are not refused -/

theorem addRow_of_change (hchange : (g.addRow p).change.isNone = false) :
    p.canGrow g.rowCount = true ∧
      g.addRow p = .ofRows
        { g with
          rows := g.rows ++ [defaultRow g.columns]
          page := if p.paging.enabled then p.paging.pageOf g.rowCount else g.page } := by
  unfold addRow at hchange ⊢
  split at hchange
  · rename_i hroom
    exact ⟨hroom, if_pos hroom⟩
  · cases hchange

theorem removeRow_of_change
    {index : Nat} (hchange : (g.removeRow p index).change.isNone = false) :
    index < g.rowCount ∧ p.canShrink g.rowCount = true ∧
      g.removeRow p index = .ofPositions
        { g with
          rows := g.rows.eraseIdx index
          selectedRows := (g.selectedRows.filter fun i => i ≠ index).map (shiftDown index)
          page := p.paging.clampPage (g.rowCount - 1) g.page } := by
  unfold removeRow at hchange ⊢
  split at hchange
  · rename_i hallowed
    exact ⟨hallowed.1, hallowed.2, if_pos hallowed⟩
  · cases hchange

theorem mergeRows_of_change (hchange : (g.mergeRows p).change.isNone = false) :
    let targets := mergeTargets g.rowCount g.selectedRows
    targets.2 < g.rowCount ∧ p.canShrink g.rowCount = true ∧
      g.mergeRows p = .ofPositions
        { g.clearSelection with
          rows := (g.rows.eraseIdx targets.2).modify targets.1
            (Row.overlay (g.rows.getD targets.2 []))
          page := p.paging.clampPage (g.rowCount - 1) g.page } := by
  unfold mergeRows at hchange ⊢
  split at hchange
  · rename_i hallowed
    exact ⟨(mergeTargets_lt hallowed.1 g.selectedRows).2, hallowed.2, if_pos hallowed⟩
  · cases hchange

theorem splitRow_of_change (hchange : (g.splitRow p).change.isNone = false) :
    let index := splitTarget g.rowCount g.selectedRows
    index < g.rowCount ∧ p.canGrow g.rowCount = true ∧
      g.splitRow p = .ofPositions
        { g.clearSelection with rows := g.rows.insertIdx (index + 1) (g.rows.getD index []) } := by
  unfold splitRow at hchange ⊢
  split at hchange
  · rename_i hallowed
    exact ⟨splitTarget_lt hallowed.1 g.selectedRows, hallowed.2, if_pos hallowed⟩
  · cases hchange

theorem rowCount_addRow (hchange : (g.addRow p).change.isNone = false) :
    p.canGrow g.rowCount = true ∧ (g.addRow p).grid.rowCount = g.rowCount + 1 := by
  obtain ⟨hroom, heq⟩ := addRow_of_change hchange
  refine ⟨hroom, ?_⟩
  simp only [heq, Transition.ofRows, rowCount, List.length_append, List.length_singleton]

theorem rowCount_removeRow {index : Nat} (hchange : (g.removeRow p index).change.isNone = false) :
    p.canShrink g.rowCount = true ∧ g.rowCount = (g.removeRow p index).grid.rowCount + 1 := by
  obtain ⟨hthere, hallowed, heq⟩ := removeRow_of_change hchange
  have hcount : (g.removeRow p index).grid.rowCount = g.rowCount - 1 := by
    rw [heq, Transition.ofPositions, rowCount, List.length_eraseIdx_of_lt hthere, rowCount]
  exact ⟨hallowed, by omega⟩

theorem rowCount_mergeRows (hchange : (g.mergeRows p).change.isNone = false) :
    p.canShrink g.rowCount = true ∧ g.rowCount = (g.mergeRows p).grid.rowCount + 1 := by
  obtain ⟨hupper, hallowed, heq⟩ := mergeRows_of_change hchange
  have hcount : (g.mergeRows p).grid.rowCount = g.rowCount - 1 := by
    rw [heq, Transition.ofPositions, rowCount, List.length_modify,
      List.length_eraseIdx_of_lt hupper, rowCount]
  exact ⟨hallowed, by omega⟩

theorem rowCount_splitRow (hchange : (g.splitRow p).change.isNone = false) :
    p.canGrow g.rowCount = true ∧ (g.splitRow p).grid.rowCount = g.rowCount + 1 := by
  obtain ⟨htarget, hroom, heq⟩ := splitRow_of_change hchange
  refine ⟨hroom, ?_⟩
  simp only [heq, Transition.ofPositions, rowCount]
  exact List.length_insertIdx_of_le_length htarget ..

end Grid

namespace StructuralEdit

/-- What an edit of a kind touches. -/
def mark : StructuralEdit → Change
  | .addRow => { rows := true }
  | .removeRow _ | .mergeRows | .splitRow => { rows := true, renumbered := true }
  | .addColumn _ | .removeColumn _ | .mergeColumns | .splitColumn =>
      { rows := true, columns := true }

/-- An edit is refused or touches what edits of its kind touch. -/
theorem apply_cases (p : Policy) (e : StructuralEdit) (g : Grid) :
    e.apply p g = .unchanged g ∨ (e.apply p g).change = e.mark := by
  cases e with
  | addRow =>
      simp only [apply, Grid.addRow]
      split
      · exact .inr rfl
      · exact .inl rfl
  | removeRow index =>
      simp only [apply, Grid.removeRow]
      split
      · exact .inr rfl
      · exact .inl rfl
  | mergeRows =>
      simp only [apply, Grid.mergeRows]
      split
      · exact .inr rfl
      · exact .inl rfl
  | splitRow =>
      simp only [apply, Grid.splitRow]
      split
      · exact .inr rfl
      · exact .inl rfl
  | addColumn label => exact .inr rfl
  | removeColumn fieldId =>
      simp only [apply, Grid.removeColumn]
      split
      · exact .inr rfl
      · exact .inl rfl
  | mergeColumns =>
      rcases Grid.mergeColumns_cases g with hsame | ⟨next, upper, hnext, -⟩
      · exact .inl hsame
      · exact .inr (congrArg Transition.change hnext)
  | splitColumn =>
      rcases Grid.splitColumn_cases g with hsame | ⟨next, position, id, hnext, -⟩
      · exact .inl hsame
      · exact .inr (congrArg Transition.change hnext)

theorem change_of_committed
    {e : StructuralEdit} (hchange : (e.apply p g).change.isNone = false) :
    (e.apply p g).change = e.mark := by
  rcases e.apply_cases p g with hrefused | hmark
  · rw [hrefused] at hchange
    cases hchange
  · exact hmark

theorem grid_of_isNone
    {e : StructuralEdit} (hchange : (e.apply p g).change.isNone = true) :
    (e.apply p g).grid = g := by
  rcases e.apply_cases p g with hrefused | hmark
  · rw [hrefused]
    rfl
  · rw [hmark] at hchange
    cases e <;> cases hchange

theorem columns_apply
    {e : StructuralEdit} (hcolumns : e.mark.columns = false) :
    (e.apply p g).grid.columns = g.columns := by
  cases e with
  | addRow => simp only [apply, Grid.addRow]; split <;> rfl
  | removeRow index => simp only [apply, Grid.removeRow]; split <;> rfl
  | mergeRows => simp only [apply, Grid.mergeRows]; split <;> rfl
  | splitRow => simp only [apply, Grid.splitRow]; split <;> rfl
  | addColumn label => cases hcolumns
  | removeColumn fieldId => cases hcolumns
  | mergeColumns => cases hcolumns
  | splitColumn => cases hcolumns

/-! ## How many records there are -/

theorem rowCount_of_columns
    {e : StructuralEdit} (hcolumns : e.mark.columns = true) :
    (e.apply p g).grid.rowCount = g.rowCount := by
  cases e with
  | addRow => cases hcolumns
  | removeRow index => cases hcolumns
  | mergeRows => cases hcolumns
  | splitRow => cases hcolumns
  | addColumn label =>
      simp only [apply, Grid.addColumn, Transition.ofColumns, Grid.rowCount, List.length_map]
  | removeColumn fieldId =>
      simp only [apply, Grid.removeColumn]
      split
      · simp only [Transition.ofColumns, Grid.rowCount, List.length_map]
      · rfl
  | mergeColumns =>
      rcases Grid.mergeColumns_cases g with hsame | ⟨next, upper, hnext, -, hcount, -⟩
      · rw [apply, hsame, Transition.unchanged]
      · rw [apply, hnext, Transition.ofColumns, hcount]
  | splitColumn =>
      rcases Grid.splitColumn_cases g with
        hsame | ⟨next, position, id, hnext, -, -, -, hcount, -⟩
      · rw [apply, hsame, Transition.unchanged]
      · rw [apply, hnext, Transition.ofColumns, hcount]

/-- An edit of records that is made adds one or takes one away, where the controls
allow it. -/
theorem rowCount_of_committed
    {e : StructuralEdit} (hchange : (e.apply p g).change.isNone = false)
    (hcolumns : e.mark.columns = false) :
    (p.canGrow g.rowCount = true ∧ (e.apply p g).grid.rowCount = g.rowCount + 1) ∨
      (p.canShrink g.rowCount = true ∧ g.rowCount = (e.apply p g).grid.rowCount + 1) := by
  cases e with
  | addRow => exact .inl (Grid.rowCount_addRow hchange)
  | removeRow index => exact .inr (Grid.rowCount_removeRow hchange)
  | mergeRows => exact .inr (Grid.rowCount_mergeRows hchange)
  | splitRow => exact .inl (Grid.rowCount_splitRow hchange)
  | addColumn label => cases hcolumns
  | removeColumn fieldId => cases hcolumns
  | mergeColumns => cases hcolumns
  | splitColumn => cases hcolumns

theorem rowCount_le_apply
    {e : StructuralEdit} (hrenumbered : e.mark.renumbered = false) :
    g.rowCount ≤ (e.apply p g).grid.rowCount := by
  cases hchange : (e.apply p g).change.isNone with
  | true => exact Nat.le_of_eq (congrArg Grid.rowCount (grid_of_isNone hchange)).symm
  | false =>
      cases e with
      | addRow =>
          obtain ⟨-, hcount⟩ := Grid.rowCount_addRow hchange
          rw [apply, hcount]
          exact Nat.le_succ _
      | removeRow index => cases hrenumbered
      | mergeRows => cases hrenumbered
      | splitRow => cases hrenumbered
      | addColumn label => exact Nat.le_of_eq (rowCount_of_columns rfl).symm
      | removeColumn fieldId => exact Nat.le_of_eq (rowCount_of_columns rfl).symm
      | mergeColumns => exact Nat.le_of_eq (rowCount_of_columns rfl).symm
      | splitColumn => exact Nat.le_of_eq (rowCount_of_columns rfl).symm

/-! ## Cells and columns that stay -/

theorem hasCell_apply
    {e : StructuralEdit} {target : Target}
    (hthere : g.HasCell target) (hrenumbered : e.mark.renumbered = false)
    (hcolumn : e.mark.columns = true → (e.apply p g).grid.hasColumn target.fieldId = true) :
    (e.apply p g).grid.HasCell target := by
  refine ⟨Nat.lt_of_lt_of_le hthere.1 (rowCount_le_apply hrenumbered), ?_⟩
  cases hcolumns : e.mark.columns with
  | true => exact hcolumn hcolumns
  | false =>
      rw [Grid.hasColumn, columns_apply hcolumns]
      exact hthere.2

theorem mem_fieldIds_addColumn
    {id : String} (hid : id ∈ g.fieldIds) (label : String) :
    id ∈ (g.addColumn label).grid.fieldIds := by
  rw [Grid.fieldIds_addColumn]
  exact List.mem_append_left _ hid

theorem mem_fieldIds_splitColumn
    {id : String} (hid : id ∈ g.fieldIds) : id ∈ g.splitColumn.grid.fieldIds := by
  rcases Grid.splitColumn_cases g with
    hsame | ⟨next, position, copy, hnext, hids, hposition, -⟩
  · rw [hsame]
    exact hid
  · rw [hnext]
    simp only [Transition.ofColumns, hids]
    exact (List.mem_insertIdx hposition).2 (.inr hid)

end StructuralEdit
end RecordGrid
