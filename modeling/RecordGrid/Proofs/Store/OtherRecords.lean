import RecordGrid.Proofs.Lookup.Requests
import RecordGrid.Proofs.Store.Deliveries

/-!
# Edits of different records

Formulas, conditions and options are worked out from one record alone, so what
an edit does depends on its own record, on the columns and on who looks.  An
edit of another record changes none of these.  It does change the numbers of
tickets, which are counted over all cells.
-/

namespace RecordGrid

/-- The request without the number that its ticket has been given. -/
def Request.unnumbered (r : Request) : Request :=
  { r with ticket := { r.ticket with sequence := 0 } }

namespace Lookups

@[simp] theorem epoch_supersede (l : Lookups) (t : Target) :
    (l.supersede t).epoch = l.epoch := by
  unfold supersede
  split <;> rfl

@[simp] theorem epoch_plan
    (row : Nat) (source : String) (value : Json) (columns : List Column) (l : Lookups) :
    (plan row source value columns l).2.epoch = l.epoch := by
  induction columns generalizing l with
  | nil => rfl
  | cons c rest ih =>
      rcases plan_cons row source value c rest l with hskip | ⟨endpoint, hissue⟩
      · rw [hskip, ih l]
      · rw [hissue, ih (l.advance ⟨row, c.fieldId⟩)]
        rfl

/-- Of the lookups under way, the requests depend on the epoch and the numbers
only. -/
theorem unnumbered_plan
    {l other : Lookups} (hepoch : l.epoch = other.epoch)
    (row : Nat) (source : String) (value : Json) (columns : List Column) :
    (plan row source value columns l).1.map Request.unnumbered =
      (plan row source value columns other).1.map Request.unnumbered := by
  induction columns generalizing l other with
  | nil => rfl
  | cons c rest ih =>
      cases hbound : c.isEnrichedFrom source with
      | false =>
          rw [plan_cons_of_unbound hbound, plan_cons_of_unbound hbound]
          exact ih hepoch
      | true =>
          obtain ⟨-, endpoint, hendpoint⟩ := Column.isEnrichedFrom_iff.1 hbound
          have hnext : (l.advance ⟨row, c.fieldId⟩).epoch =
              (other.advance ⟨row, c.fieldId⟩).epoch := hepoch
          rw [plan_cons_of_bound hbound hendpoint, plan_cons_of_bound hbound hendpoint,
            List.map_cons, List.map_cons, ih hnext]
          simp only [Request.unnumbered, issue, hepoch]

end Lookups

/-- What someone enters into a cell. -/
structure CellEdit where
  row : Nat
  fieldId : String
  raw : Json

namespace CellEdit

def target (e : CellEdit) : Target := ⟨e.row, e.fieldId⟩

def operation (e : CellEdit) : Store.Operation := .updateCell e.row e.fieldId e.raw

end CellEdit

namespace Store

variable {s next : Store} {a b : CellEdit}

/-- The reply with its requests unnumbered. -/
def Reply.unnumbered : Reply → Reply
  | .requests (.ok started) => .requests (.ok (started.map Request.unnumbered))
  | reply => reply

/-- The cell and the value that an edit writes, where it writes one. -/
def written? (s : Store) (e : CellEdit) : Option (Target × Json) :=
  match s.enter e.row e.fieldId e.raw with
  | .error _ => none
  | .ok (value, stored) => if stored == some value then none else some (e.target, value)

theorem target_of_mem_written? {cell : Target × Json} (hcell : cell ∈ s.written? a) :
    cell.1 = a.target := by
  unfold written? at hcell
  split at hcell
  · cases hcell
  · split at hcell
    · cases hcell
    · cases hcell
      rfl

theorem grid_edit (s : Store) (e : CellEdit) :
    (s.step e.operation).store.grid = s.grid.put (s.written? e) := by
  simp only [CellEdit.operation, step, updateCell, written?]
  cases s.enter e.row e.fieldId e.raw with
  | error _ => rfl
  | ok entered =>
      obtain ⟨value, stored⟩ := entered
      dsimp only
      split
      · rfl
      · rfl

/-! ## What an edit depends on -/

/-- Two stores in which an edit of a record finds the same. -/
structure AgreeOn (row : Nat) (s next : Store) : Prop where
  viewer : next.viewer = s.viewer
  columns : next.grid.columns = s.grid.columns
  record : next.grid.rows[row]? = s.grid.rows[row]?
  epoch : next.lookups.epoch = s.lookups.epoch

theorem AgreeOn.refl (row : Nat) (s : Store) : s.AgreeOn row s := ⟨rfl, rfl, rfl, rfl⟩

theorem AgreeOn.trans
    {row : Nat} {last : Store} (hnext : s.AgreeOn row next) (hlast : next.AgreeOn row last) :
    s.AgreeOn row last where
  viewer := hlast.viewer.trans hnext.viewer
  columns := hlast.columns.trans hnext.columns
  record := hlast.record.trans hnext.record
  epoch := hlast.epoch.trans hnext.epoch

theorem AgreeOn.enter_eq (hagree : s.AgreeOn a.row next) :
    next.enter a.row a.fieldId a.raw = s.enter a.row a.fieldId a.raw := by
  simp only [enter, Grid.column?, hagree.viewer, hagree.columns, hagree.record]

theorem AgreeOn.written?_eq (hagree : s.AgreeOn a.row next) : next.written? a = s.written? a := by
  simp only [written?, hagree.enter_eq]

/-- The edit gets the same error, or starts the same lookups. -/
theorem AgreeOn.reply_eq (hagree : s.AgreeOn a.row next) :
    (next.step a.operation).reply.unnumbered = (s.step a.operation).reply.unnumbered := by
  simp only [CellEdit.operation, step, updateCell, hagree.enter_eq]
  split
  · rfl
  · rename_i value stored _
    split
    · rfl
    · have hepoch : (next.lookups.supersede ⟨a.row, a.fieldId⟩).epoch =
          (s.lookups.supersede ⟨a.row, a.fieldId⟩).epoch := by
        rw [Lookups.epoch_supersede, Lookups.epoch_supersede, hagree.epoch]
      simp only [write_eq, publish_reply, Reply.unnumbered, planned, hagree.columns,
        Lookups.unnumbered_plan hepoch]

/-! ## What an edit leaves as it is -/

theorem agreeOn_edit (s : Store) (hne : a.row ≠ b.row) :
    s.AgreeOn a.row (s.step b.operation).store := by
  simp only [CellEdit.operation, step]
  rcases s.updateCell_cases b.row b.fieldId b.raw with
    ⟨e, hquiet⟩ | ⟨value, -, hquiet⟩ | ⟨value, -, -, hwrite⟩
  · rw [hquiet]
    exact .refl a.row s
  · rw [hquiet]
    exact .refl a.row s
  · -- the written record is another one, and new tickets keep the epoch
    rw [hwrite, write_eq, publish_store]
    refine ⟨rfl, rfl, List.getElem?_modify_ne _ _ (Ne.symm hne), ?_⟩
    simp [planned]

theorem agreeOn_run_edits
    (s : Store) {edits : List CellEdit} (hothers : ∀ e ∈ edits, a.row ≠ e.row) :
    s.AgreeOn a.row (s.run (edits.map CellEdit.operation)) := by
  induction edits generalizing s with
  | nil => exact .refl a.row s
  | cons e rest ih =>
      rw [List.forall_mem_cons] at hothers
      exact (s.agreeOn_edit hothers.1).trans (ih _ hothers.2)

/-- However many edits of other records come before it, an edit is refused with
the same error, or starts the same lookups. -/
theorem reply_after_other_edits
    (s : Store) {edits : List CellEdit} (hothers : ∀ e ∈ edits, a.row ≠ e.row) :
    ((s.run (edits.map CellEdit.operation)).step a.operation).reply.unnumbered =
      (s.step a.operation).reply.unnumbered :=
  (s.agreeOn_run_edits hothers).reply_eq

/-! ## Two edits -/

theorem grid_two_edits (s : Store) (hne : a.row ≠ b.row) :
    ((s.step a.operation).store.step b.operation).store.grid =
      (s.grid.put (s.written? a)).put (s.written? b) := by
  rw [grid_edit, (s.agreeOn_edit (Ne.symm hne)).written?_eq, grid_edit]

theorem grid_edit_comm (s : Store) (hne : a.row ≠ b.row) :
    ((s.step a.operation).store.step b.operation).store.grid =
      ((s.step b.operation).store.step a.operation).store.grid := by
  have hcells : ∀ first ∈ s.written? a, ∀ second ∈ s.written? b, first.1 ≠ second.1 := by
    intro first hfirst second hsecond
    rw [target_of_mem_written? hfirst, target_of_mem_written? hsecond]
    exact fun hsame => hne (congrArg Target.row hsame)
  rw [s.grid_two_edits hne, s.grid_two_edits (Ne.symm hne), Grid.put_comm hcells]

/-- Of two edits of different records each gets, before the other and after it,
the same error or the same requests, the numbers of the tickets aside.  The
records, and all else of the grid, are the same in the end. -/
theorem edits_of_different_records_commute
    (s : Store) (hne : a.row ≠ b.row) :
    let afterA := (s.step a.operation).store
    let afterB := (s.step b.operation).store
    (afterB.step a.operation).reply.unnumbered = (s.step a.operation).reply.unnumbered ∧
      (afterA.step b.operation).reply.unnumbered = (s.step b.operation).reply.unnumbered ∧
      (afterA.step b.operation).store.grid = (afterB.step a.operation).store.grid := by
  intro afterA afterB
  have hothers : ∀ e ∈ [b], a.row ≠ e.row := by simpa using hne
  have hothers' : ∀ e ∈ [a], b.row ≠ e.row := by simpa using Ne.symm hne
  exact ⟨s.reply_after_other_edits hothers, s.reply_after_other_edits hothers',
    s.grid_edit_comm hne⟩

/-- Each of two records looks a name up for its code, and the one that is edited
first gets the first number. -/
theorem edits_of_different_records_commute_in_sample :
    let s := ((ofSchema .builtin .sample).step (.edit .addRow)).store
    let a : CellEdit := ⟨0, "code", .str "x"⟩
    let b : CellEdit := ⟨1, "code", .str "y"⟩
    let afterB := (s.step b.operation).store
    a.row ≠ b.row ∧
      (s.step a.operation).reply = .requests (.ok [⟨⟨⟨0, "name"⟩, 1, 1⟩, "/names", "code", "x"⟩]) ∧
      (afterB.step a.operation).reply =
        .requests (.ok [⟨⟨⟨0, "name"⟩, 2, 1⟩, "/names", "code", "x"⟩]) ∧
      (afterB.step a.operation).reply.unnumbered = (s.step a.operation).reply.unnumbered ∧
      ((s.step a.operation).store.step b.operation).store.grid =
        (afterB.step a.operation).store.grid := by
  intro s a b afterB
  have hne : a.row ≠ b.row := by decide
  obtain ⟨hreply, -, hgrid⟩ := edits_of_different_records_commute s hne
  exact ⟨hne, rfl, rfl, hreply, hgrid⟩

end Store
end RecordGrid
