import RecordGrid.Grid.Edit
import RecordGrid.Proofs.Grid.Cells
import RecordGrid.Proofs.Grid.Positions
import RecordGrid.Proofs.Layout.Page

/-!
# The page of a grid

Whatever is done to a grid, its page stays while no record goes, is brought back
among the pages that there are, or is turned to a record that was appended.  In
each case it is one of the pages afterwards if it was one before.
-/

namespace RecordGrid
namespace Grid

variable {p : Paging} {policy : Policy} {g before after : Grid}

/-- What becomes of the page. -/
inductive Turned (p : Paging) (before after : Grid) : Prop where
  | stays (same : after.page = before.page) (kept : before.rowCount ≤ after.rowCount) :
      Turned p before after
  | clamped (page : Nat) (within : after.page = p.clampPage after.rowCount page) :
      Turned p before after
  | followed (appended : after.rowCount = before.rowCount + 1)
      (turned : after.page = p.pageOf before.rowCount) : Turned p before after

/-- The page is one of the pages, the first where there is no paging. -/
structure PageWithin (p : Paging) (g : Grid) : Prop where
  le_lastPage : p.PagesAll g.rowCount → g.page ≤ p.lastPage g.rowCount
  off : p.enabled = false → g.page = 0

theorem PageWithin.first (p : Paging) (hpage : g.page = 0) : g.PageWithin p where
  le_lastPage := fun _ => hpage ▸ Nat.zero_le _
  off := fun _ => hpage

theorem PageWithin.turned
    (hbefore : before.PageWithin p) (hturned : Turned p before after) : after.PageWithin p := by
  cases hturned with
  | stays hsame hkept =>
      refine ⟨fun hall => ?_, fun hoff => hsame.trans (hbefore.off hoff)⟩
      rw [hsame]
      exact Nat.le_trans (hbefore.le_lastPage (hall.of_le hkept)) (Paging.lastPage_mono hkept hall)
  | clamped page hwithin =>
      refine ⟨fun _ => ?_, fun hoff => ?_⟩
      · rw [hwithin]
        exact Paging.clampPage_le_lastPage _ _
      · rw [hwithin]
        exact Paging.clampPage_of_disabled hoff _ _
  | followed happended hturned =>
      refine ⟨fun hall => ?_, fun hoff => ?_⟩
      · rw [happended] at hall ⊢
        rw [hturned]
        exact Nat.le_of_eq (Paging.pageOf_eq_lastPage hall)
      · rw [hturned, Paging.pageOf, hoff]
        rfl

/-! ## The edits -/

theorem turned_addRow (policy : Policy) (g : Grid) :
    Turned policy.paging g (g.addRow policy).grid := by
  unfold addRow
  split
  · have hcount : (g.rows ++ [defaultRow g.columns]).length = g.rowCount + 1 := by
      rw [List.length_append, List.length_singleton, rowCount]
    cases henabled : policy.paging.enabled with
    | false => exact .stays rfl (Nat.le_trans (Nat.le_succ _) (Nat.le_of_eq hcount.symm))
    | true => exact .followed hcount rfl
  · exact .stays rfl (Nat.le_refl _)

theorem turned_removeRow (policy : Policy) (index : Nat) (g : Grid) :
    Turned policy.paging g (g.removeRow policy index).grid := by
  unfold removeRow
  split
  · rename_i hguard
    have hcount : (g.rows.eraseIdx index).length = g.rowCount - 1 :=
      List.length_eraseIdx_of_lt hguard.1
    refine .clamped g.page ?_
    simp only [Transition.ofPositions, rowCount, hcount]
  · exact .stays rfl (Nat.le_refl _)

theorem turned_mergeRows (policy : Policy) (g : Grid) :
    Turned policy.paging g (g.mergeRows policy).grid := by
  unfold mergeRows
  split
  · rename_i hguard
    have hcount : (g.rows.eraseIdx (mergeTargets g.rowCount g.selectedRows).2).length =
        g.rowCount - 1 :=
      List.length_eraseIdx_of_lt (mergeTargets_lt hguard.1 g.selectedRows).2
    refine .clamped g.page ?_
    simp only [Transition.ofPositions, rowCount, List.length_modify] at hcount ⊢
    rw [hcount]
  · exact .stays rfl (Nat.le_refl _)

theorem turned_splitRow (policy : Policy) (g : Grid) :
    Turned policy.paging g (g.splitRow policy).grid := by
  unfold splitRow
  split
  · exact .stays rfl List.length_le_length_insertIdx
  · exact .stays rfl (Nat.le_refl _)

theorem turned_addColumn (p : Paging) (label : String) (g : Grid) :
    Turned p g (g.addColumn label).grid :=
  .stays rfl (Nat.le_of_eq (List.length_map _).symm)

theorem turned_removeColumn (p : Paging) (fieldId : String) (g : Grid) :
    Turned p g (g.removeColumn fieldId).grid := by
  unfold removeColumn
  split
  · exact .stays rfl (Nat.le_of_eq (List.length_map _).symm)
  · exact .stays rfl (Nat.le_refl _)

theorem turned_mergeColumns (p : Paging) (g : Grid) : Turned p g g.mergeColumns.grid := by
  unfold mergeColumns
  dsimp only
  split
  · split
    · exact .stays rfl (Nat.le_of_eq (List.length_map _).symm)
    · exact .stays rfl (Nat.le_refl _)
  · exact .stays rfl (Nat.le_refl _)

theorem turned_splitColumn (p : Paging) (g : Grid) : Turned p g g.splitColumn.grid := by
  unfold splitColumn
  dsimp only
  split
  · exact .stays rfl (Nat.le_of_eq (List.length_map _).symm)
  · exact .stays rfl (Nat.le_refl _)

theorem turned_apply (policy : Policy) (e : StructuralEdit) (g : Grid) :
    Turned policy.paging g (e.apply policy g).grid := by
  cases e with
  | addRow => exact turned_addRow policy g
  | removeRow index => exact turned_removeRow policy index g
  | mergeRows => exact turned_mergeRows policy g
  | splitRow => exact turned_splitRow policy g
  | addColumn label => exact turned_addColumn policy.paging label g
  | removeColumn fieldId => exact turned_removeColumn policy.paging fieldId g
  | mergeColumns => exact turned_mergeColumns policy.paging g
  | splitColumn => exact turned_splitColumn policy.paging g

/-! ## What else is done to a grid -/

theorem turned_reseed (policy : Policy) (rows : List Row) (g : Grid) :
    Turned policy.paging g (g.reseed policy rows).grid :=
  .clamped g.page rfl

theorem turned_setPage (p : Paging) (page : Nat) (g : Grid) :
    Turned p g { g with page := p.clampPage g.rowCount page } :=
  .clamped page rfl

theorem turned_setCell (p : Paging) (row : Nat) (fieldId : String) (value : Json) (g : Grid) :
    Turned p g (g.setCell row fieldId value) :=
  .stays rfl (Nat.le_of_eq (rowCount_setCell g row fieldId value).symm)

end Grid

/-! ## Faults -/

/-- The records whose pages an edit counts are fewer than there were. -/
theorem StructuralEdit.fault?_eq_none_of_fits
    {policy : Policy} {g : Grid} (hfits : g.rowCount + policy.paging.pageSize < 2 ^ 64)
    (e : StructuralEdit) : e.fault? policy g = none := by
  have hfewer : policy.paging.fault? (g.rowCount - 1) = none :=
    Paging.fault?_eq_none_of_fits (by omega)
  cases e with
  | removeRow index => simp only [fault?, hfewer, ite_self]
  | mergeRows => simp only [fault?, hfewer, ite_self]
  | _ => rfl

end RecordGrid
