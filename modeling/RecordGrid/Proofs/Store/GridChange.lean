import RecordGrid.Proofs.Store.Reachable

/-!
# The ways a grid changes

Few operations touch the columns and the records of a store.  All that any of
them does to the grid and to the history is listed once, and what holds of all
grids of a session follows by the cases of that list.
-/

namespace RecordGrid
namespace Store

variable {s next : Store}

/-- The schema and the records of the host are the same. -/
structure SameSource (s next : Store) : Prop where
  schema : next.schema = s.schema
  externalRows : next.externalRows = s.externalRows

/-- What an operation has made of the grid and of the history. -/
inductive GridChange (s next : Store) : Operation → Prop where
  | loaded (schema : Schema) (installed : next = s.install schema) :
      GridChange s next (.loadSchema schema)
  | supplied (rows : List Row) (reseeded : next = (s.supplyRows rows).store) :
      GridChange s next (.supplyRows rows)
  /-- At most the selection or the page is another one. -/
  | kept {op : Operation} (source : s.SameSource next)
      (columns : next.grid.columns = s.grid.columns) (rows : next.grid.rows = s.grid.rows)
      (history : next.history = s.history) : GridChange s next op
  | answered {op : Operation} (source : s.SameSource next) (t : Target) (value : Json)
      (there : s.grid.HasCell t) (grid : next.grid = s.grid.setCell t.row t.fieldId value)
      (history : next.history = s.history) : GridChange s next op
  | entered (row : Nat) (fieldId : String) (raw value : Json) (source : s.SameSource next)
      (there : s.grid.HasCell ⟨row, fieldId⟩) (grid : next.grid = s.grid.setCell row fieldId value)
      (history : next.history = s.history.record ("Edit " ++ fieldId) s.grid) :
      GridChange s next (.updateCell row fieldId raw)
  | edited (e : StructuralEdit) (source : s.SameSource next)
      (grid : next.grid = (e.apply s.policy s.grid).grid)
      (history : next.history = s.history.record e.description s.grid) :
      GridChange s next (.edit e)
  | undone (source : s.SameSource next)
      (travel : s.history.undo s.grid = some (next.grid, next.history)) :
      GridChange s next .undo
  | redone (source : s.SameSource next)
      (travel : s.history.redo s.grid = some (next.grid, next.history)) :
      GridChange s next .redo

theorem SameSource.refl (s : Store) : s.SameSource s := ⟨rfl, rfl⟩

theorem sameSource_commit (description : String) (t : Transition) (s : Store) :
    s.SameSource (s.commit description t).store := by
  unfold commit
  split
  · exact .refl s
  · cases t.change.rows <;> cases t.change.columns <;> exact ⟨rfl, rfl⟩

theorem sameSource_restore (g : Grid) (history : History Grid) (s : Store) :
    s.SameSource (s.restore g history).store := by
  unfold restore
  cases g.columns != s.grid.columns <;> exact ⟨rfl, rfl⟩

theorem gridChange_same (s : Store) (op : Operation) : s.GridChange s op :=
  .kept (.refl s) rfl rfl rfl

theorem gridChange_applyLookup (s : Store) (t : Ticket) (value : Json) (op : Operation) :
    s.GridChange (s.applyLookup t value).store op := by
  by_cases haccepted : s.lookups.isCurrent t = true ∧ s.grid.HasCell t.target
  · rw [applyLookup_of_current haccepted.1 haccepted.2]
    exact .answered ⟨rfl, rfl⟩ t.target value haccepted.2 rfl rfl
  · cases hcurrent : s.lookups.isCurrent t with
    | false =>
        rw [applyLookup_of_not_current hcurrent]
        exact s.gridChange_same op
    | true =>
        rw [applyLookup_of_missing hcurrent fun hthere => haccepted ⟨hcurrent, hthere⟩]
        exact .kept ⟨rfl, rfl⟩ rfl rfl rfl

theorem gridChange_edit (s : Store) (e : StructuralEdit) :
    s.GridChange (s.step (.edit e)).store (.edit e) := by
  simp only [step]
  have hsource := sameSource_commit e.description (e.apply s.policy s.grid) s
  cases hchange : (e.apply s.policy s.grid).change.isNone with
  | true =>
      rw [s.commit_of_refused hchange]
      exact s.gridChange_same _
  | false =>
      obtain ⟨-, hnext⟩ := s.commit_of_changed hchange e.description
      exact .edited e hsource hnext.grid hnext.history

theorem gridChange_select (s : Store) {g : Option Grid} (op : Operation)
    (hkept : ∀ next ∈ g, next.columns = s.grid.columns ∧ next.rows = s.grid.rows) :
    s.GridChange (s.select g).store op := by
  cases g with
  | none => exact s.gridChange_same op
  | some g => exact .kept ⟨rfl, rfl⟩ (hkept g rfl).1 (hkept g rfl).2 rfl

/-- Every operation changes the grid in one of the ways. -/
theorem gridChange_step (s : Store) (op : Operation) : s.GridChange (s.step op).store op := by
  cases op with
  | loadSchema schema => exact .loaded schema rfl
  | supplyRows rows => exact .supplied rows rfl
  | supplyOptions options => exact .kept ⟨rfl, rfl⟩ rfl rfl rfl
  | setRole role => exact .kept ⟨rfl, rfl⟩ rfl rfl rfl
  | updateCell row fieldId raw =>
      simp only [step]
      rcases s.updateCell_cases row fieldId raw with
        ⟨e, hquiet⟩ | ⟨value, -, hquiet⟩ | ⟨value, -, hthere, hwrite⟩
      · rw [hquiet]
        exact s.gridChange_same _
      · rw [hquiet]
        exact s.gridChange_same _
      · rw [hwrite, write_eq]
        exact .entered row fieldId raw value ⟨rfl, rfl⟩ hthere rfl rfl
  | applyLookup t value => exact s.gridChange_applyLookup t value _
  | answerLookup t body =>
      simp only [step, answerLookup]
      split
      · exact s.gridChange_applyLookup t _ _
      · exact .kept ⟨rfl, rfl⟩ rfl rfl rfl
  | abandonLookup t => exact .kept ⟨rfl, rfl⟩ rfl rfl rfl
  | edit e => exact s.gridChange_edit e
  | toggleRow index =>
      refine s.gridChange_select _ fun g hg => ?_
      obtain ⟨-, rfl⟩ := Grid.of_toggleRow hg
      exact ⟨rfl, rfl⟩
  | toggleColumn fieldId =>
      refine s.gridChange_select _ fun g hg => ?_
      obtain ⟨-, rfl⟩ := Grid.of_toggleColumn hg
      exact ⟨rfl, rfl⟩
  | clearSelection => exact .kept ⟨rfl, rfl⟩ rfl rfl rfl
  | setPage page => exact .kept ⟨rfl, rfl⟩ rfl rfl rfl
  | nextPage => exact .kept ⟨rfl, rfl⟩ rfl rfl rfl
  | previousPage => exact .kept ⟨rfl, rfl⟩ rfl rfl rfl
  | undo =>
      cases hundo : s.history.undo s.grid with
      | none =>
          simp only [step, travel, hundo, quiet_store]
          exact s.gridChange_same _
      | some target =>
          have hnext := restored_restore target.1 target.2 s
          simp only [step, travel, hundo]
          exact .undone (sameSource_restore ..) (by rw [hnext.grid, hnext.history, hundo])
  | redo =>
      cases hredo : s.history.redo s.grid with
      | none =>
          simp only [step, travel, hredo, quiet_store]
          exact s.gridChange_same _
      | some target =>
          have hnext := restored_restore target.1 target.2 s
          simp only [step, travel, hredo]
          exact .redone (sameSource_restore ..) (by rw [hnext.grid, hnext.history, hredo])

end Store
end RecordGrid
