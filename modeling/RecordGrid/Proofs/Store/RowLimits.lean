import RecordGrid.Proofs.Store.Consistent
import RecordGrid.Proofs.Store.GridChange

/-!
# The limits on the number of records

The controls of a schema are asked before a record is added or taken away, and
never about the records that a session is seeded with.  So the number of records
stays within the limits from where the seeds left it: it may begin beyond a
limit, but it cannot move further away.
-/

namespace RecordGrid

variable {p : Policy} {g : Grid}

/-- As many records as the controls allow to a session seeded with some. -/
structure RowControls.Keeps (c : RowControls) (seeded count : Nat) : Prop where
  fixed : c.mode = .fixed → count = seeded
  atMost : ∀ most ∈ c.maxRows, count ≤ max seeded most
  atLeast : ∀ least ∈ c.minRows, min seeded least ≤ count

namespace Policy

theorem canGrow_iff {count : Nat} :
    p.canGrow count = true ↔
      p.rowControls.mode ≠ .fixed ∧ ∀ most ∈ p.rowControls.maxRows, count < most := by
  simp only [canGrow, Bool.and_eq_true, bne_iff_ne, Option.all_eq_true, decide_eq_true_eq,
    Option.mem_def]

theorem canShrink_iff {count : Nat} :
    p.canShrink count = true ↔
      p.rowControls.mode ≠ .fixed ∧ ∀ least ∈ p.rowControls.minRows, least < count := by
  simp only [canShrink, Bool.and_eq_true, bne_iff_ne, Option.all_eq_true, decide_eq_true_eq,
    Option.mem_def]

/-- How many records there may be after an edit, by how many there are. -/
inductive RowChange (p : Policy) (before : Nat) : Nat → Prop where
  | same : RowChange p before before
  | grown (room : p.canGrow before = true) : RowChange p before (before + 1)
  | shrunk {after : Nat} (spare : p.canShrink before = true) (one : before = after + 1) :
      RowChange p before after

end Policy

namespace RowControls.Keeps

variable {seeded count after : Nat}

theorem seed (c : RowControls) (seeded : Nat) : c.Keeps seeded seeded where
  fixed := fun _ => rfl
  atMost := fun most _ => Nat.le_max_left seeded most
  atLeast := fun least _ => Nat.min_le_left seeded least

theorem change
    (hcount : p.rowControls.Keeps seeded count) (hchange : p.RowChange count after) :
    p.rowControls.Keeps seeded after := by
  cases hchange with
  | same => exact hcount
  | grown hroom =>
      obtain ⟨hgrowing, hbelow⟩ := Policy.canGrow_iff.1 hroom
      constructor
      · intro hfixed
        exact absurd hfixed hgrowing
      · intro most hmost
        exact Nat.le_trans (hbelow most hmost) (Nat.le_max_right seeded most)
      · intro least hleast
        exact Nat.le_succ_of_le (hcount.atLeast least hleast)
  | shrunk hspare hone =>
      obtain ⟨hgrowing, habove⟩ := Policy.canShrink_iff.1 hspare
      constructor
      · intro hfixed
        exact absurd hfixed hgrowing
      · intro most hmost
        have hbefore := hcount.atMost most hmost
        omega
      · intro least hleast
        have hleft := habove least hleast
        omega

end RowControls.Keeps

/-- An edit adds one record, takes one away or keeps their number, and asks the
controls before it adds or takes. -/
theorem StructuralEdit.rowChange_apply (p : Policy) (e : StructuralEdit) (g : Grid) :
    p.RowChange g.rowCount (e.apply p g).grid.rowCount := by
  cases hchange : (e.apply p g).change.isNone with
  | true =>
      rw [grid_of_isNone hchange]
      exact .same
  | false =>
      cases hcolumns : e.mark.columns with
      | true =>
          rw [rowCount_of_columns hcolumns]
          exact .same
      | false =>
          rcases rowCount_of_committed hchange hcolumns with ⟨hroom, hcount⟩ | ⟨hspare, hcount⟩
          · rw [hcount]
            exact .grown hroom
          · exact .shrunk hspare hcount

/-! ## A session -/

namespace Store

variable {s : Store} {seeded : Nat}

/-- The operation replaces the records by seeds. -/
def Operation.Seeds : Operation → Prop
  | .loadSchema _ | .supplyRows _ => True
  | _ => False

/-- The records are those that the session has just been seeded with. -/
inductive Seeded : Store → Prop where
  | started (registry : Registry) (schema : Schema) : Seeded (ofSchema registry schema)
  | loaded (s : Store) (schema : Schema) : Seeded (s.step (.loadSchema schema)).store
  | supplied (s : Store) (rows : List Row) : Seeded (s.step (.supplyRows rows)).store

/-- The grid has as many records as the controls allow, and so has every grid
that undo and redo can come to. -/
structure KeepsRows (seeded : Nat) (c : RowControls) (s : Store) : Prop where
  controls : s.schema.rowControls = c
  grid : c.Keeps seeded s.grid.rowCount
  history : s.history.All fun g => c.Keeps seeded g.rowCount

theorem Seeded.keepsRows (hs : s.Seeded) :
    s.KeepsRows s.grid.rowCount s.schema.rowControls where
  controls := rfl
  grid := .seed _ _
  history := by
    cases hs with
    | started registry schema => exact History.All.clear _
    | loaded s schema => exact History.All.clear _
    | supplied s rows => exact History.All.clear _

theorem KeepsRows.step
    {c : RowControls} (hs : s.KeepsRows seeded c) {op : Operation} (hop : ¬op.Seeds) :
    (s.step op).store.KeepsRows seeded c := by
  have hcontrols : ∀ {next : Store}, s.SameSource next → next.schema.rowControls = c := by
    intro next hsource
    rw [hsource.schema, hs.controls]
  cases s.gridChange_step op with
  | loaded schema => exact absurd trivial hop
  | supplied rows => exact absurd trivial hop
  | kept hsource _ hrows hhistory =>
      refine ⟨hcontrols hsource, ?_, ?_⟩
      · rw [Grid.rowCount, hrows]
        exact hs.grid
      · rw [hhistory]
        exact hs.history
  | answered hsource t value _ hgrid hhistory =>
      refine ⟨hcontrols hsource, ?_, ?_⟩
      · rw [hgrid, Grid.rowCount_setCell]
        exact hs.grid
      · rw [hhistory]
        exact hs.history
  | entered row fieldId raw value hsource _ hgrid hhistory =>
      refine ⟨hcontrols hsource, ?_, ?_⟩
      · rw [hgrid, Grid.rowCount_setCell]
        exact hs.grid
      · rw [hhistory]
        exact hs.history.record _ hs.grid
  | edited e hsource hgrid hhistory =>
      -- the controls that the edit asks are those the records were seeded under
      have hchange := e.rowChange_apply s.policy s.grid
      have hbefore : s.policy.rowControls.Keeps seeded s.grid.rowCount := by
        rw [policy, hs.controls]
        exact hs.grid
      refine ⟨hcontrols hsource, ?_, ?_⟩
      · rw [hgrid, ← hs.controls]
        exact hbefore.change hchange
      · rw [hhistory]
        exact hs.history.record _ hs.grid
  | undone hsource htravel =>
      obtain ⟨hgrid, hhistory⟩ := hs.history.undo hs.grid htravel
      exact ⟨hcontrols hsource, hgrid, hhistory⟩
  | redone hsource htravel =>
      obtain ⟨hgrid, hhistory⟩ := hs.history.redo hs.grid htravel
      exact ⟨hcontrols hsource, hgrid, hhistory⟩

theorem KeepsRows.run
    {c : RowControls} (hs : s.KeepsRows seeded c) {ops : List Operation}
    (hops : ∀ op ∈ ops, ¬op.Seeds) :
    (s.run ops).KeepsRows seeded c := by
  induction ops generalizing s with
  | nil => exact hs
  | cons op rest ih =>
      rw [List.forall_mem_cons] at hops
      exact ih (hs.step hops.1) hops.2

/-- Until the records are seeded anew, in fixed mode there are as many as were
seeded.  There are never more than the most allowed or the seeded, whichever is
more, and never fewer than the least allowed or the seeded, whichever is less. -/
theorem row_count_keeps_limits
    (hs : s.Seeded) {ops : List Operation} (hops : ∀ op ∈ ops, ¬op.Seeds) :
    let controls := s.schema.rowControls
    let seeded := s.grid.rowCount
    let count := (s.run ops).grid.rowCount
    (controls.mode = .fixed → count = seeded) ∧
      (∀ most, controls.maxRows = some most → count ≤ max seeded most) ∧
      (∀ least, controls.minRows = some least → min seeded least ≤ count) := by
  intro controls seeded count
  have hkeeps := (hs.keepsRows.run hops).grid
  exact ⟨hkeeps.fixed, hkeeps.atMost, hkeeps.atLeast⟩

/-- With room for two records the third is not added, and of two records that
have to stay neither is merged away; undo still leads back to the one seeded. -/
theorem row_count_keeps_limits_in_sample :
    let controls : RowControls := { minRows := some 2, maxRows := some 2 }
    let s := ofSchema .builtin { Schema.sample with rowControls := controls }
    let ops : List Operation := [.edit .addRow, .edit .splitRow, .edit .mergeRows]
    s.Seeded ∧ (∀ op ∈ ops, ¬op.Seeds) ∧
      s.grid.rowCount = 1 ∧ (s.run ops).grid.rowCount = 2 ∧
      (s.run (ops ++ [.undo])).grid.rowCount = 1 ∧
      (∀ most, controls.maxRows = some most →
        (s.run ops).grid.rowCount ≤ max s.grid.rowCount most) := by
  intro controls s ops
  have hs : s.Seeded := .started _ _
  have hops : ∀ op ∈ ops, ¬op.Seeds := by simp [ops, Operation.Seeds]
  obtain ⟨-, hmost, -⟩ := row_count_keeps_limits hs hops
  have hseeded : s.grid.rowCount = 1 := rfl
  have hcounts :
      (s.run ops).grid.rowCount = 2 ∧ (s.run (ops ++ [.undo])).grid.rowCount = 1 := by
    decide +kernel
  exact ⟨hs, hops, hseeded, hcounts.1, hcounts.2, hmost⟩

end Store
end RecordGrid
