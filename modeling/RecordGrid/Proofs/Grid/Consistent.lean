import RecordGrid.Proofs.Grid.FieldId
import RecordGrid.Proofs.Grid.Pages

/-!
# Consistent grids

No two columns of a grid share an id, whatever is selected is there, and the
page is one of the pages.  Every edit and every selection keeps it so.
-/

namespace RecordGrid

namespace Ascending

variable {α : Type} [DecidableEq α] [LT α] [DecidableLT α]

theorem eq_or_mem_of_mem_toggle
    {a b : α} {as : List α} (hb : b ∈ toggle a as) : b = a ∨ b ∈ as := by
  unfold toggle at hb
  split at hb
  · exact .inr ((mem_erase a b as).1 hb).1
  · exact (mem_insert a b as).1 hb

end Ascending

namespace Grid

/-- What holds of every grid that a session comes to. -/
structure Consistent (p : Paging) (g : Grid) : Prop where
  distinct : g.fieldIds.Nodup
  rowsSelected : ∀ i ∈ g.selectedRows, i < g.rowCount
  colsSelected : ∀ id ∈ g.selectedCols, id ∈ g.fieldIds
  paged : g.PageWithin p

variable {p : Paging} {g : Grid}

/-- The bound is the one on the length of a list in memory. -/
theorem Consistent.pageWithin (hg : g.Consistent p) (hrowCount : g.rowCount < 2 ^ 63) :
    g.page ≤ p.lastPage g.rowCount :=
  hg.paged.le_lastPage (p.pagesAll_of_lt hrowCount)

theorem Consistent.pageOff (hg : g.Consistent p) (hoff : p.enabled = false) : g.page = 0 :=
  hg.paged.off hoff

theorem hasColumn_iff {fieldId : String} : g.hasColumn fieldId = true ↔ fieldId ∈ g.fieldIds := by
  simp only [hasColumn, fieldIds, List.any_eq_true, List.mem_map, beq_iff_eq]

@[simp] theorem fieldIds_getElem? (g : Grid) (i : Nat) :
    g.fieldIds[i]? = g.columns[i]?.map (·.fieldId) :=
  List.getElem?_map

theorem getElem?_of_columnIndex?
    {fieldId : String} {i : Nat} (hindex : g.columnIndex? fieldId = some i) :
    g.fieldIds[i]? = some fieldId := by
  obtain ⟨hlt, hid, -⟩ := List.findIdx?_eq_some_iff_getElem.1 hindex
  simpa [List.getElem?_eq_getElem hlt] using hid

/-! ## Selections -/

theorem of_toggleRow
    {index : Nat} {next : Grid} (hnext : g.toggleRow index = some next) :
    index < g.rowCount ∧
      next = { g with selectedRows := Ascending.toggle index g.selectedRows } := by
  unfold toggleRow at hnext
  split at hnext
  · rename_i hindex
    exact ⟨hindex, (Option.some.inj hnext).symm⟩
  · cases hnext

theorem of_toggleColumn
    {fieldId : String} {next : Grid} (hnext : g.toggleColumn fieldId = some next) :
    g.hasColumn fieldId = true ∧
      next = { g with selectedCols := Ascending.toggle fieldId g.selectedCols } := by
  unfold toggleColumn at hnext
  split at hnext
  · rename_i hcolumn
    exact ⟨hcolumn, (Option.some.inj hnext).symm⟩
  · cases hnext

/-! ## The ids after an edit of columns -/

theorem fieldIds_addColumn (label : String) (g : Grid) :
    (g.addColumn label).grid.fieldIds =
      g.fieldIds ++ [uniqueFieldId g.fieldIds (fieldIdFromLabel (g.newLabel label))] := by
  simp only [fieldIds, addColumn, Transition.ofColumns, Column.plain, List.map_append,
    List.map_cons, List.map_nil]

theorem fieldIds_removeColumn
    {fieldId : String} {i : Nat} (hindex : g.columnIndex? fieldId = some i) :
    (g.removeColumn fieldId).grid.fieldIds = g.fieldIds.eraseIdx i := by
  simp only [removeColumn, hindex, Transition.ofColumns, fieldIds, List.eraseIdx_map]

/-- A merge of columns is refused, or drops one column. -/
theorem mergeColumns_cases (g : Grid) :
    g.mergeColumns = .unchanged g ∨
      ∃ next upper,
        g.mergeColumns = .ofColumns next ∧
        next.fieldIds = g.fieldIds.eraseIdx upper ∧
        next.rowCount = g.rowCount ∧
        next.selectedRows = [] ∧ next.selectedCols = [] := by
  unfold mergeColumns
  cases htargets : mergeTargets g.columns.length g.selectedPositions with
  | mk lower upper =>
      simp only
      split
      · rename_i kept dropped hkept hdropped
        split
        · rename_i htwo
          obtain ⟨hlower, hupper⟩ := mergeTargets_lt htwo g.selectedPositions
          rw [htargets] at hlower hupper
          refine .inr ⟨_, upper, rfl, ?_, ?_, rfl, rfl⟩
          · -- the kept column keeps its id, so its place in the list of ids is not touched
            have hsame : (g.fieldIds.eraseIdx upper)[lower]? = some kept.fieldId := by
              rw [List.getElem?_eraseIdx_of_lt hlower, fieldIds_getElem?, hkept]
              rfl
            simp only [fieldIds, List.map_set, List.eraseIdx_map] at hsame ⊢
            obtain ⟨hlt, hvalue⟩ := List.getElem?_eq_some_iff.1 hsame
            rw [← hvalue, List.set_getElem_self]
          · simp [rowCount]
        · exact .inl rfl
      · exact .inl rfl

/-- A split of a column is refused, or puts a free id somewhere. -/
theorem splitColumn_cases (g : Grid) :
    g.splitColumn = .unchanged g ∨
      ∃ next position id,
        g.splitColumn = .ofColumns next ∧
        next.fieldIds = g.fieldIds.insertIdx position id ∧
        position ≤ g.fieldIds.length ∧ id ∉ g.fieldIds ∧
        next.rowCount = g.rowCount ∧
        next.selectedRows = [] ∧ next.selectedCols = [] := by
  unfold splitColumn
  simp only
  split
  · rename_i source hsource
    have hposition := (List.getElem?_eq_some_iff.1 hsource).1
    refine .inr ⟨_, splitTarget g.columns.length g.selectedPositions + 1,
      uniqueFieldId g.fieldIds (source.fieldId ++ "_copy"), rfl, ?_, ?_,
      uniqueFieldId_not_mem _ _, ?_, rfl, rfl⟩
    · simp only [fieldIds, List.map_insertIdx]
    · rw [fieldIds, List.length_map]
      exact hposition
    · simp [rowCount]
  · exact .inl rfl

/-! ## Every operation on a grid keeps it consistent -/

namespace Consistent

variable {policy : Policy}

theorem addRow (hg : g.Consistent policy.paging) :
    (g.addRow policy).grid.Consistent policy.paging := by
  have hpaged := hg.paged.turned (turned_addRow policy g)
  unfold Grid.addRow at hpaged ⊢
  split
  · rename_i hroom
    rw [if_pos hroom] at hpaged
    refine ⟨hg.distinct, ?_, hg.colsSelected, hpaged⟩
    intro i hi
    have hlt := hg.rowsSelected i hi
    simp only [Transition.ofRows, rowCount, List.length_append] at hlt ⊢
    omega
  · exact hg

theorem removeRow (hg : g.Consistent policy.paging) (index : Nat) :
    (g.removeRow policy index).grid.Consistent policy.paging := by
  have hpaged := hg.paged.turned (turned_removeRow policy index g)
  unfold Grid.removeRow at hpaged ⊢
  split
  · rename_i hguard
    rw [if_pos hguard] at hpaged
    refine ⟨hg.distinct, ?_, hg.colsSelected, hpaged⟩
    intro i hi
    simp only [Transition.ofPositions, List.mem_map, List.mem_filter, decide_eq_true_eq] at hi
    obtain ⟨before, ⟨hbefore, hne⟩, rfl⟩ := hi
    have hlength : (g.rows.eraseIdx index).length = g.rowCount - 1 :=
      List.length_eraseIdx_of_lt hguard.1
    simp only [Transition.ofPositions, rowCount, hlength]
    exact shiftDown_lt hguard.1 (hg.rowsSelected before hbefore) hne
  · exact hg

theorem mergeRows (hg : g.Consistent policy.paging) :
    (g.mergeRows policy).grid.Consistent policy.paging := by
  have hpaged := hg.paged.turned (turned_mergeRows policy g)
  unfold Grid.mergeRows at hpaged ⊢
  split
  · rename_i hguard
    rw [if_pos hguard] at hpaged
    exact ⟨hg.distinct, by simp [Transition.ofPositions, clearSelection],
      by simp [Transition.ofPositions, clearSelection], hpaged⟩
  · exact hg

theorem splitRow (hg : g.Consistent policy.paging) :
    (g.splitRow policy).grid.Consistent policy.paging := by
  have hpaged := hg.paged.turned (turned_splitRow policy g)
  unfold Grid.splitRow at hpaged ⊢
  split
  · rename_i hguard
    rw [if_pos hguard] at hpaged
    exact ⟨hg.distinct, by simp [Transition.ofPositions, clearSelection],
      by simp [Transition.ofPositions, clearSelection], hpaged⟩
  · exact hg

theorem addColumn (hg : g.Consistent p) (label : String) :
    (g.addColumn label).grid.Consistent p := by
  have hfree := uniqueFieldId_not_mem g.fieldIds (fieldIdFromLabel (g.newLabel label))
  refine ⟨?_, ?_, ?_, hg.paged.turned (turned_addColumn p label g)⟩
  · rw [fieldIds_addColumn]
    refine List.nodup_append.2 ⟨hg.distinct, by simp, ?_⟩
    intro id hid other hother hsame
    rw [List.mem_singleton.1 hother] at hsame
    exact hfree (hsame ▸ hid)
  · simpa [Grid.addColumn, Transition.ofColumns, rowCount] using hg.rowsSelected
  · intro id hid
    rw [fieldIds_addColumn]
    exact List.mem_append_left _ (hg.colsSelected id hid)

theorem removeColumn (hg : g.Consistent p) (fieldId : String) :
    (g.removeColumn fieldId).grid.Consistent p := by
  cases hindex : g.columnIndex? fieldId with
  | none => simpa only [Grid.removeColumn, hindex, Transition.unchanged] using hg
  | some i =>
      have hids := fieldIds_removeColumn hindex
      have hselected : (g.removeColumn fieldId).grid.selectedCols =
          Ascending.erase fieldId g.selectedCols := by
        simp only [Grid.removeColumn, hindex, Transition.ofColumns]
      refine ⟨?_, ?_, ?_, hg.paged.turned (turned_removeColumn p fieldId g)⟩
      · rw [hids]
        exact hg.distinct.eraseIdx i
      · simpa [Grid.removeColumn, hindex, Transition.ofColumns, rowCount] using hg.rowsSelected
      · intro id hid
        rw [hselected, Ascending.mem_erase] at hid
        obtain ⟨j, hj⟩ := List.mem_iff_getElem?.1 (hg.colsSelected id hid.1)
        rw [hids, List.mem_eraseIdx_iff_getElem?]
        refine ⟨j, ?_, hj⟩
        -- the column that goes is another one than the selected column
        rintro rfl
        rw [getElem?_of_columnIndex? hindex] at hj
        exact hid.2 (Option.some.inj hj).symm

theorem mergeColumns (hg : g.Consistent p) : g.mergeColumns.grid.Consistent p := by
  have hpaged := hg.paged.turned (turned_mergeColumns p g)
  rcases mergeColumns_cases g with hsame | ⟨next, upper, hnext, hids, -, hrows, hcols⟩
  · rw [hsame]
    exact hg
  · rw [hnext] at hpaged ⊢
    refine ⟨?_, by simp [Transition.ofColumns, hrows], by simp [Transition.ofColumns, hcols],
      hpaged⟩
    simpa only [Transition.ofColumns, hids] using hg.distinct.eraseIdx upper

theorem splitColumn (hg : g.Consistent p) : g.splitColumn.grid.Consistent p := by
  have hpaged := hg.paged.turned (turned_splitColumn p g)
  rcases splitColumn_cases g with
    hsame | ⟨next, position, id, hnext, hids, hposition, hfree, -, hrows, hcols⟩
  · rw [hsame]
    exact hg
  · rw [hnext] at hpaged ⊢
    refine ⟨?_, by simp [Transition.ofColumns, hrows], by simp [Transition.ofColumns, hcols],
      hpaged⟩
    simp only [Transition.ofColumns, hids]
    rw [(List.perm_insertIdx id g.fieldIds hposition).nodup_iff]
    exact List.nodup_cons.2 ⟨hfree, hg.distinct⟩

theorem apply (hg : g.Consistent policy.paging) (e : StructuralEdit) :
    (e.apply policy g).grid.Consistent policy.paging := by
  cases e with
  | addRow => exact hg.addRow
  | removeRow index => exact hg.removeRow index
  | mergeRows => exact hg.mergeRows
  | splitRow => exact hg.splitRow
  | addColumn label => exact hg.addColumn label
  | removeColumn fieldId => exact hg.removeColumn fieldId
  | mergeColumns => exact hg.mergeColumns
  | splitColumn => exact hg.splitColumn

theorem reseed (hg : g.Consistent policy.paging) (rows : List Row) :
    (g.reseed policy rows).grid.Consistent policy.paging where
  distinct := hg.distinct
  rowsSelected := by simp [Grid.reseed, Transition.ofPositions]
  colsSelected := hg.colsSelected
  paged := hg.paged.turned (turned_reseed policy rows g)

theorem setPage (hg : g.Consistent p) (page : Nat) :
    Consistent p { g with page := p.clampPage g.rowCount page } where
  distinct := hg.distinct
  rowsSelected := hg.rowsSelected
  colsSelected := hg.colsSelected
  paged := hg.paged.turned (turned_setPage p page g)

theorem setCell (hg : g.Consistent p) (row : Nat) (fieldId : String) (value : Json) :
    (g.setCell row fieldId value).Consistent p where
  distinct := hg.distinct
  rowsSelected := by
    rw [rowCount_setCell]
    exact hg.rowsSelected
  colsSelected := hg.colsSelected
  paged := hg.paged.turned (turned_setCell p row fieldId value g)

theorem clearSelection (hg : g.Consistent p) : g.clearSelection.Consistent p where
  distinct := hg.distinct
  rowsSelected := by simp [Grid.clearSelection]
  colsSelected := by simp [Grid.clearSelection]
  paged := hg.paged.turned (.stays rfl (Nat.le_refl _))

theorem toggleRow
    (hg : g.Consistent p) {index : Nat} {next : Grid} (hnext : g.toggleRow index = some next) :
    next.Consistent p := by
  obtain ⟨hindex, rfl⟩ := of_toggleRow hnext
  refine ⟨hg.distinct, ?_, hg.colsSelected, hg.paged.turned (.stays rfl (Nat.le_refl _))⟩
  intro i hi
  rcases Ascending.eq_or_mem_of_mem_toggle hi with rfl | hi
  · exact hindex
  · exact hg.rowsSelected i hi

theorem toggleColumn
    (hg : g.Consistent p) {fieldId : String} {next : Grid}
    (hnext : g.toggleColumn fieldId = some next) :
    next.Consistent p := by
  obtain ⟨hcolumn, rfl⟩ := of_toggleColumn hnext
  refine ⟨hg.distinct, hg.rowsSelected, ?_, hg.paged.turned (.stays rfl (Nat.le_refl _))⟩
  intro id hid
  rcases Ascending.eq_or_mem_of_mem_toggle hid with rfl | hid
  · exact hasColumn_iff.1 hcolumn
  · exact hg.colsSelected id hid

end Consistent

end Grid

end RecordGrid
