import Mathlib.Data.List.GetD
import RecordGrid.Proofs.Grid.Edits
import RecordGrid.Proofs.Keyed

/-!
# Edits of records that take each other back

A record that was added goes when the record at its place is removed, and a record
that was repeated becomes one again when both are merged.  The merge is neutral
because a record is a keyed list: to put what it holds into it changes nothing.
-/

namespace RecordGrid

theorem Row.overlay_of_subset
    {upper lower : Row} (hlower : Keyed.Ascending lower) (hupper : ∀ m ∈ upper, m ∈ lower) :
    upper.overlay lower = lower := by
  unfold overlay
  induction upper with
  | nil => rfl
  | cons m rest ih =>
      rw [List.forall_mem_cons] at hupper
      rw [List.foldl_cons, hlower.insert_of_mem hupper.1, ih hupper.2]

theorem Row.overlay_self {row : Row} (hrow : Keyed.Ascending row) : row.overlay row = row :=
  overlay_of_subset hrow fun _ hm => hm

namespace Grid

variable {p : Policy} {g : Grid}

/-! ## Adding and removing -/

theorem rows_addRow (hchange : (g.addRow p).change.isNone = false) :
    (g.addRow p).grid.rows = g.rows ++ [defaultRow g.columns] := by
  rw [(addRow_of_change hchange).2, Transition.ofRows]

theorem rows_removeRow {index : Nat} (hchange : (g.removeRow p index).change.isNone = false) :
    (g.removeRow p index).grid.rows = g.rows.eraseIdx index := by
  rw [(removeRow_of_change hchange).2.2, Transition.ofPositions]

/-! ## Splitting and merging -/

/-- The record at a position has been repeated right below itself. -/
def Repeats (i : Nat) (before after : Grid) : Prop :=
  ∃ record, before.rows[i]? = some record ∧ after.rows = before.rows.insertIdx (i + 1) record

theorem repeats_splitRow (hchange : (g.splitRow p).change.isNone = false) :
    g.Repeats (splitTarget g.rowCount g.selectedRows) (g.splitRow p).grid := by
  obtain ⟨htarget, -, heq⟩ := splitRow_of_change hchange
  refine ⟨_, List.getElem?_eq_getElem htarget, ?_⟩
  rw [heq, Transition.ofPositions, List.getD_eq_getElem _ _ htarget]

theorem rows_mergeRows_pair
    {lower upper : Nat} (hselected : g.selectedRows = [lower, upper]) (hlt : lower < upper)
    (hupper : upper < g.rowCount) (hchange : (g.mergeRows p).change.isNone = false) :
    (g.mergeRows p).grid.rows =
      (g.rows.eraseIdx upper).modify lower (Row.overlay (g.rows.getD upper [])) := by
  rw [(mergeRows_of_change hchange).2.2, Transition.ofPositions, hselected,
    mergeTargets_pair hlt hupper]

/-- A merge of a record with its repetition leaves the records that there were. -/
theorem Repeats.rows_mergeRows
    {i : Nat} {repeated : Grid} (hrepeats : g.Repeats i repeated)
    (hrows : ∀ row ∈ g.rows, Keyed.Ascending row)
    (hselected : repeated.selectedRows = [i, i + 1])
    (hchange : (repeated.mergeRows p).change.isNone = false) :
    (repeated.mergeRows p).grid.rows = g.rows := by
  obtain ⟨record, hrecord, hinserted⟩ := hrepeats
  obtain ⟨hi, hvalue⟩ := List.getElem?_eq_some_iff.1 hrecord
  have hupper : i + 1 < repeated.rowCount := by
    rw [rowCount, hinserted, List.length_insertIdx_of_le_length hi]
    omega
  have hcopy : repeated.rows.getD (i + 1) [] = record := by
    have hroom : i + 1 ≤ g.rows.length := hi
    rw [hinserted, List.getD_eq_getElem?_getD, List.getElem?_insertIdx_self, if_pos hroom,
      Option.getD_some]
  have hneutral : record.overlay record = record :=
    Row.overlay_self (hrows record (List.mem_of_getElem? hrecord))
  calc
    (repeated.mergeRows p).grid.rows =
        (repeated.rows.eraseIdx (i + 1)).modify i (Row.overlay record) := by
      rw [rows_mergeRows_pair hselected (Nat.lt_succ_self i) hupper hchange, hcopy]
    _ = g.rows.modify i (Row.overlay record) := by
      rw [hinserted, List.eraseIdx_insertIdx_self]
    _ = g.rows := by
      rw [List.modify_eq_set, hrecord, Option.getD_some, hneutral, ← hvalue,
        List.set_getElem_self]

/-- The records are those that there were when one that was added is removed, and when
one that was repeated is merged with its repetition. -/
theorem record_edits_taken_back
    (p : Policy) {g : Grid} (hrows : ∀ row ∈ g.rows, Keyed.Ascending row) :
    let added := g.addRow p
    let removed := added.grid.removeRow p g.rowCount
    let split := g.splitRow p
    (added.change.isNone = false → removed.change.isNone = false →
      removed.grid.rows = g.rows) ∧
    (split.change.isNone = false →
      g.Repeats (splitTarget g.rowCount g.selectedRows) split.grid ∧
      ∀ i, g.Repeats i split.grid →
        ∀ chosen : Grid, chosen.rows = split.grid.rows → chosen.selectedRows = [i, i + 1] →
          (chosen.mergeRows p).change.isNone = false →
          (chosen.mergeRows p).grid.rows = g.rows) := by
  intro added removed split
  constructor
  · intro hadded hremoved
    rw [rows_removeRow hremoved, rows_addRow hadded, rowCount,
      List.eraseIdx_append_of_length_le (Nat.le_refl _), Nat.sub_self, List.eraseIdx_zero,
      List.tail_cons, List.append_nil]
  · intro hsplit
    refine ⟨repeats_splitRow hsplit, fun i hrepeats chosen hchosen hselected hmerged => ?_⟩
    have hchosenRepeats : g.Repeats i chosen := by
      obtain ⟨record, hrecord, hinserted⟩ := hrepeats
      exact ⟨record, hrecord, hchosen.trans hinserted⟩
    exact hchosenRepeats.rows_mergeRows hrows hselected hmerged

/-- Three records of which the second is repeated, and selected with its repetition. -/
theorem record_edits_taken_back_of_three :
    let p : Policy := { paging := { enabled := true, rowsPerPage := some 2 } }
    let g : Grid :=
      { columns := [.plain "name" "Name" "text"]
        rows := [[("name", .str "a")], [("name", .str "b"), ("note", .int 1)], []]
        selectedRows := [1] }
    let added := g.addRow p
    let removed := added.grid.removeRow p 3
    let split := g.splitRow p
    let chosen : Grid := { split.grid with selectedRows := [1, 2] }
    (∀ row ∈ g.rows, Keyed.Ascending row) ∧
      added.change.isNone = false ∧ added.grid.rowCount = 4 ∧
      removed.change.isNone = false ∧ removed.grid.rows = g.rows ∧
      split.change.isNone = false ∧ g.Repeats 1 split.grid ∧
      (split.grid.toggleRow 1).bind (·.toggleRow 2) = some chosen ∧
      (chosen.mergeRows p).change.isNone = false ∧ (chosen.mergeRows p).grid.rows = g.rows := by
  intro p g added removed split chosen
  have hrows : ∀ row ∈ g.rows, Keyed.Ascending row := by
    unfold Keyed.Ascending
    decide
  obtain ⟨hremoved, hsplit⟩ := record_edits_taken_back p hrows
  obtain ⟨hrepeats, hmerged⟩ := hsplit (by decide)
  refine ⟨hrows, by decide, by decide, by decide, hremoved (by decide) (by decide), by decide,
    hrepeats, rfl, by decide, hmerged 1 hrepeats chosen rfl rfl (by decide)⟩

end Grid
end RecordGrid
