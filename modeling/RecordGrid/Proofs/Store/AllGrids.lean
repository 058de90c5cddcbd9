import RecordGrid.Proofs.History
import RecordGrid.Proofs.Store.Reachable

/-!
# What holds of all grids of a session

What holds of the grid that a schema starts with, and goes on holding whatever is
done to a grid, holds of the grid of every store that operations lead to.  It
also holds of the grids in its history, so undo and redo are no way around it.
-/

namespace RecordGrid
namespace Store

variable {admits : Schema → Prop} {P : Paging → Grid → Prop} {s next : Store}

/-- The property holds of the first grid under every admitted schema, and nothing that
is done to a grid ends it. -/
structure Lasting (admits : Schema → Prop) (P : Paging → Grid → Prop) : Prop where
  start : ∀ {schema : Schema}, admits schema →
    ∀ rows, P schema.paging { columns := schema.columns, rows }
  setCell : ∀ {p : Paging} {g : Grid}, P p g →
    ∀ row fieldId value, P p (g.setCell row fieldId value)
  edit : ∀ {policy : Policy} {g : Grid}, P policy.paging g →
    ∀ e : StructuralEdit, P policy.paging (e.apply policy g).grid
  reseed : ∀ {policy : Policy} {g : Grid}, P policy.paging g →
    ∀ rows, P policy.paging (g.reseed policy rows).grid
  toggleRow : ∀ {p : Paging} {g : Grid}, P p g → ∀ index, ∀ after ∈ g.toggleRow index, P p after
  toggleColumn : ∀ {p : Paging} {g : Grid}, P p g →
    ∀ fieldId, ∀ after ∈ g.toggleColumn fieldId, P p after
  clearSelection : ∀ {p : Paging} {g : Grid}, P p g → P p g.clearSelection
  setPage : ∀ {p : Paging} {g : Grid}, P p g →
    ∀ page, P p { g with page := p.clampPage g.rowCount page }

/-- The property holds of the grid, and of every grid that undo and redo can come to. -/
structure AllGrids (P : Paging → Grid → Prop) (s : Store) : Prop where
  grid : P s.schema.paging s.grid
  history : s.history.All (P s.schema.paging)

namespace AllGrids

/-- A change of the grid alone. -/
theorem withGrid
    (hs : s.AllGrids P) (hgrid : P s.schema.paging next.grid)
    (hschema : next.schema = s.schema) (hhistory : next.history = s.history) :
    next.AllGrids P := by
  constructor
  · rw [hschema]
    exact hgrid
  · rw [hschema, hhistory]
    exact hs.history

/-- A change of the grid that the history remembers. -/
theorem recorded
    (hs : s.AllGrids P) (hgrid : P s.schema.paging next.grid)
    (hschema : next.schema = s.schema) {description : String}
    (hhistory : next.history = s.history.record description s.grid) :
    next.AllGrids P := by
  constructor
  · rw [hschema]
    exact hgrid
  · rw [hschema, hhistory]
    exact hs.history.record description hs.grid

theorem install
    (hlasting : Lasting admits P) {schema : Schema} (hschema : admits schema) (s : Store) :
    (s.install schema).AllGrids P where
  grid := hlasting.start hschema _
  history := History.All.clear _

theorem supplyRows (hlasting : Lasting admits P) (hs : s.AllGrids P) (rows : List Row) :
    (s.supplyRows rows).store.AllGrids P where
  grid := by
    have hgrid : P s.policy.paging (s.grid.reseed s.policy (s.schema.seedRows rows)).grid :=
      hlasting.reseed hs.grid _
    exact hgrid
  history := History.All.clear _

theorem updateCell
    (hlasting : Lasting admits P) (hs : s.AllGrids P) (row : Nat) (fieldId : String) (raw : Json) :
    (s.updateCell row fieldId raw).store.AllGrids P := by
  rcases s.updateCell_cases row fieldId raw with
    ⟨e, hquiet⟩ | ⟨value, -, hquiet⟩ | ⟨value, -, -, hwrite⟩
  · rw [hquiet]
    exact hs
  · rw [hquiet]
    exact hs
  · rw [hwrite, write_eq]
    exact hs.recorded (hlasting.setCell hs.grid row fieldId value) rfl rfl

theorem applyLookup
    (hlasting : Lasting admits P) (hs : s.AllGrids P) (t : Ticket) (value : Json) :
    (s.applyLookup t value).store.AllGrids P := by
  rcases s.applyLookup_cases t value with hlate | hmissing | hwritten
  · rw [hlate]
    exact hs
  · rw [hmissing]
    exact hs.withGrid hs.grid rfl rfl
  · rw [hwritten]
    exact hs.withGrid (hlasting.setCell hs.grid t.target.row t.target.fieldId value) rfl rfl

theorem edit (hlasting : Lasting admits P) (hs : s.AllGrids P) (e : StructuralEdit) :
    (s.step (.edit e)).store.AllGrids P := by
  have hgrid : P s.policy.paging (e.apply s.policy s.grid).grid := hlasting.edit hs.grid e
  simp only [Store.step]
  cases hchange : (e.apply s.policy s.grid).change.isNone with
  | true =>
      rw [s.commit_of_refused hchange]
      exact hs
  | false =>
      obtain ⟨-, hnext⟩ := s.commit_of_changed hchange e.description
      exact hs.recorded (by rw [hnext.grid]; exact hgrid) hnext.schema hnext.history

theorem select
    (hs : s.AllGrids P) {g : Option Grid} (hg : ∀ after ∈ g, P s.schema.paging after) :
    (s.select g).store.AllGrids P := by
  cases g with
  | none => exact hs
  | some g => exact hs.withGrid (hg g rfl) rfl rfl

theorem restore
    {g : Grid} {history : History Grid}
    (htarget : P s.schema.paging g ∧ history.All (P s.schema.paging)) :
    (s.restore g history).store.AllGrids P := by
  have hnext := restored_restore g history s
  constructor
  · rw [hnext.schema, hnext.grid]
    exact htarget.1
  · rw [hnext.schema, hnext.history]
    exact htarget.2

theorem step
    (hlasting : Lasting admits P) (hs : s.AllGrids P) {op : Operation} (hop : op.Admitted admits) :
    (s.step op).store.AllGrids P := by
  cases op with
  | loadSchema schema => exact install hlasting hop s
  | supplyRows rows => exact hs.supplyRows hlasting rows
  | supplyOptions options => exact hs.withGrid hs.grid rfl rfl
  | setRole role => exact hs.withGrid hs.grid rfl rfl
  | updateCell row fieldId raw => exact hs.updateCell hlasting row fieldId raw
  | applyLookup t value => exact hs.applyLookup hlasting t value
  | answerLookup t body =>
      simp only [Store.step, answerLookup]
      split
      · exact hs.applyLookup hlasting t _
      · exact hs.withGrid hs.grid rfl rfl
  | abandonLookup t => exact hs.withGrid hs.grid rfl rfl
  | edit e => exact hs.edit hlasting e
  | toggleRow index => exact hs.select (hlasting.toggleRow hs.grid index)
  | toggleColumn fieldId => exact hs.select (hlasting.toggleColumn hs.grid fieldId)
  | clearSelection => exact hs.withGrid (hlasting.clearSelection hs.grid) rfl rfl
  | setPage page => exact hs.withGrid (hlasting.setPage hs.grid page) rfl rfl
  | nextPage => exact hs.withGrid (hlasting.setPage hs.grid _) rfl rfl
  | previousPage => exact hs.withGrid (hlasting.setPage hs.grid _) rfl rfl
  | undo =>
      cases hundo : s.history.undo s.grid with
      | none => simpa only [Store.step, travel, hundo, quiet_store] using hs
      | some target =>
          simp only [Store.step, travel, hundo]
          exact restore (hs.history.undo hs.grid hundo)
  | redo =>
      cases hredo : s.history.redo s.grid with
      | none => simpa only [Store.step, travel, hredo, quiet_store] using hs
      | some target =>
          simp only [Store.step, travel, hredo]
          exact restore (hs.history.redo hs.grid hredo)

end AllGrids

/-- What lasts holds of all grids of every store that operations lead to. -/
theorem Lasting.allGrids (hlasting : Lasting admits P) (hs : Reachable admits s) :
    s.AllGrids P := by
  induction hs with
  | start registry hschema => exact AllGrids.install hlasting hschema _
  | step _ hop ih => exact ih.step hlasting hop

end Store
end RecordGrid
