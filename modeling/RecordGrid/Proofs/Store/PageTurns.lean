import RecordGrid.Proofs.Layout.Windows
import RecordGrid.Proofs.Store.AllGrids

/-!
# Turning pages

The page of a store is one of the pages whatever has been done to it, whichever
schemas it has been given.  So the pager says there is a page after it, or before
it, exactly where turning that way leads to another page, which is then the next
one; and the pages that can be turned to show every record once.  As long as the
pages can be counted, no operation ends in a fault.
-/

namespace RecordGrid
namespace Store

variable {admits : Schema → Prop} {s : Store}

theorem pageWithin_lasting : Lasting admits Grid.PageWithin where
  start := fun _ _ => .first _ rfl
  setCell := fun hg row fieldId value => hg.turned (Grid.turned_setCell _ row fieldId value _)
  edit := fun hg e => hg.turned (Grid.turned_apply _ e _)
  reseed := fun hg rows => hg.turned (Grid.turned_reseed _ rows _)
  toggleRow := by
    intro p g hg index after hafter
    obtain ⟨-, rfl⟩ := Grid.of_toggleRow hafter
    exact hg.turned (.stays rfl (Nat.le_refl _))
  toggleColumn := by
    intro p g hg fieldId after hafter
    obtain ⟨-, rfl⟩ := Grid.of_toggleColumn hafter
    exact hg.turned (.stays rfl (Nat.le_refl _))
  clearSelection := fun hg => hg.turned (.stays rfl (Nat.le_refl _))
  setPage := fun hg page => hg.turned (Grid.turned_setPage _ page _)

theorem Reachable.page_le_lastPage
    (hs : Reachable admits s) (hall : s.schema.paging.PagesAll s.grid.rowCount) :
    s.grid.page ≤ s.schema.paging.lastPage s.grid.rowCount :=
  (pageWithin_lasting.allGrids hs).grid.le_lastPage hall

/-! ## Faults -/

/-- The sum that the pages are counted from fits in 64 bits. -/
def PagesFit (s : Store) : Prop := s.grid.rowCount + s.schema.paging.pageSize < 2 ^ 64

theorem PagesFit.pageFault?_eq_none (hfits : s.PagesFit) : s.pageFault? = none :=
  Paging.fault?_eq_none_of_fits hfits

/-- Nothing ends an operation as long as the pages fit before it and after it. -/
theorem PagesFit.fault?_eq_none
    (hbefore : s.PagesFit) {op : Operation} (hafter : (s.step op).store.PagesFit) :
    s.fault? op = none := by
  cases op with
  | supplyRows rows => exact hafter.pageFault?_eq_none
  | edit e =>
      have hfits : s.grid.rowCount + s.policy.paging.pageSize < 2 ^ 64 := hbefore
      exact e.fault?_eq_none_of_fits hfits
  | setPage _ => exact hbefore.pageFault?_eq_none
  | nextPage => exact hbefore.pageFault?_eq_none
  | previousPage => exact hbefore.pageFault?_eq_none
  | _ => rfl

/-! ## Turning -/

theorem page_nextPage (s : Store) :
    (s.step .nextPage).store.grid.page =
      min (s.grid.page + 1) (s.schema.paging.lastPage s.grid.rowCount) :=
  rfl

theorem page_previousPage (s : Store) :
    (s.step .previousPage).store.grid.page =
      min (s.grid.page - 1) (s.schema.paging.lastPage s.grid.rowCount) :=
  rfl

/-- Where the sum of records and page size fits in 64 bits, the windows of the pages
list all records in order, each window some and no more than a page holds, and each
record in the window of its page only.  In a store that operations have led to, with
as many records and that paging, turning to the next page leads to another one
exactly if the pager says there is one, and so does turning back; and another page is
the one that follows, or the one before. -/
theorem pages_tile_and_turn
    {p : Paging} {rowCount : Nat} (henabled : p.enabled = true)
    (hfits : rowCount + p.pageSize < 2 ^ 64) :
    p.Tiles rowCount ∧
      ∀ {admits : Schema → Prop} {s : Store}, Reachable admits s → s.schema.paging = p →
        s.grid.rowCount = rowCount →
        let next := (s.step .nextPage).store.grid.page
        let previous := (s.step .previousPage).store.grid.page
        (next ≠ s.grid.page ↔ s.pageInfo.hasNext = true) ∧
          (previous ≠ s.grid.page ↔ s.pageInfo.hasPrev = true) ∧
          (next ≠ s.grid.page → next = s.grid.page + 1) ∧
          (previous ≠ s.grid.page → previous + 1 = s.grid.page) := by
  refine ⟨Paging.tiles_of_fits henabled hfits, ?_⟩
  rintro admits s hs rfl rfl
  intro next previous
  have hpage := hs.page_le_lastPage (.inr hfits)
  have hnext : next = min (s.grid.page + 1) (s.schema.paging.lastPage s.grid.rowCount) :=
    s.page_nextPage
  have hprevious : previous = min (s.grid.page - 1) (s.schema.paging.lastPage s.grid.rowCount) :=
    s.page_previousPage
  have hmore : s.pageInfo.hasNext = true ↔
      s.grid.page < s.schema.paging.lastPage s.grid.rowCount :=
    PageInfo.hasNext_ofPage_iff hpage
  have hfewer : s.pageInfo.hasPrev = true ↔ 0 < s.grid.page := PageInfo.hasPrev_ofPage_iff
  rw [hmore, hfewer]
  refine ⟨?_, ?_, ?_, ?_⟩ <;> omega

/-- Five records, two to a page, with the second page turned to. -/
theorem pages_tile_and_turn_in_pairs :
    let p : Paging := { enabled := true, rowsPerPage := some 2 }
    let s := (ofSchema .builtin { paging := p }).run
      [.supplyRows (List.replicate 5 []), .nextPage]
    p.enabled = true ∧ 5 + p.pageSize < 2 ^ 64 ∧ p.Tiles 5 ∧
      (List.range 3).map (p.window 5) = [[0, 1], [2, 3], [4]] ∧
      Reachable (fun _ => True) s ∧ s.schema.paging = p ∧ s.grid.rowCount = 5 ∧
      s.grid.page = 1 ∧ (s.step .nextPage).store.grid.page = 2 ∧
      (s.step .previousPage).store.grid.page = 0 ∧
      s.pageInfo.hasNext = true ∧ s.pageInfo.hasPrev = true := by
  intro p s
  have hfits : 5 + p.pageSize < 2 ^ 64 := by decide
  have hreached : Reachable (fun _ => True) s :=
    (Reachable.start .builtin trivial).run (by simp [Operation.Admitted])
  obtain ⟨htiles, hturns⟩ := pages_tile_and_turn (p := p) rfl hfits
  obtain ⟨hnext, hprevious, -, -⟩ := hturns hreached rfl rfl
  have hpages : s.grid.page = 1 ∧ (s.step .nextPage).store.grid.page = 2 ∧
      (s.step .previousPage).store.grid.page = 0 := by decide
  refine ⟨rfl, hfits, htiles, by decide, hreached, rfl, rfl, hpages.1, hpages.2.1, hpages.2.2,
    hnext.1 ?_, hprevious.1 ?_⟩
  · rw [hpages.2.1, hpages.1]
    decide
  · rw [hpages.2.2, hpages.1]
    decide

end Store
end RecordGrid
