import RecordGrid.Proofs.Grid.Copied
import RecordGrid.Proofs.Grid.Fields

/-!
# Records under edits

An edit that does not move records leaves every record what it holds, but for the
fields of the columns that the edit is about.  A new column has an id that no
column had; where host data has values under that id, they give way to those of
the column.
-/

namespace RecordGrid

theorem Row.get?_fold_of_ne
    {kept dropped key : String} (row : Row) (hkept : key ≠ kept) (hdropped : key ≠ dropped) :
    Keyed.get? (row.fold kept dropped) key = Keyed.get? row key := by
  rw [fold, Keyed.get?_insert, if_neg hkept, Keyed.get?_erase, if_neg hdropped]

namespace Grid

variable {before after : Grid} {touched : String → Prop} {id : String}

/-- Every record is where it was and holds what it held, but for some fields. -/
structure KeepsRecords (touched : String → Prop) (before after : Grid) : Prop where
  rowCount_le : before.rowCount ≤ after.rowCount
  cell?_eq : ∀ t : Target, t.row < before.rowCount → ¬touched t.fieldId →
    after.cell? t = before.cell? t

theorem KeepsRecords.refl (touched : String → Prop) (g : Grid) : g.KeepsRecords touched g :=
  ⟨Nat.le_refl _, fun _ _ _ => rfl⟩

theorem KeepsRecords.mono
    {others : String → Prop} (hkept : before.KeepsRecords touched after)
    (htouched : ∀ id, touched id → others id) : before.KeepsRecords others after :=
  ⟨hkept.rowCount_le, fun t ht hother => hkept.cell?_eq t ht (mt (htouched t.fieldId) hother)⟩

theorem keepsRecords_of_append {more : List Row} (hrows : after.rows = before.rows ++ more) :
    before.KeepsRecords touched after where
  rowCount_le := by
    rw [rowCount, rowCount, hrows, List.length_append]
    exact Nat.le_add_right _ _
  cell?_eq := fun t ht _ => by rw [cell?, hrows, List.getElem?_append_left ht, cell?]

theorem keepsRecords_of_map
    {f : Row → Row} (hrows : after.rows = before.rows.map f)
    (hf : ∀ row key, ¬touched key → Keyed.get? (f row) key = Keyed.get? row key) :
    before.KeepsRecords touched after where
  rowCount_le := by rw [rowCount, rowCount, hrows, List.length_map]
  cell?_eq := by
    intro t _ ht
    rw [cell?, cell?, hrows, List.getElem?_map]
    cases before.rows[t.row]? with
    | none => rfl
    | some row => exact hf row t.fieldId ht

/-! ## New columns -/

/-- A column has been added under a new id, and every record holds a value for it,
as far as one is given. -/
structure Filled (id : String) (fill : Row → Option Json) (before after : Grid) : Prop where
  fresh : id ∉ before.fieldIds
  mem_fieldIds : ∀ k, k ∈ after.fieldIds ↔ k = id ∨ k ∈ before.fieldIds
  rows : after.rows = before.rows.map (Row.filled id fill)

variable {fill : Row → Option Json}

theorem filled_addColumn (label : String) (g : Grid) :
    ∃ id, g.Filled id (fun _ => some (.str "")) (g.addColumn label).grid := by
  refine ⟨_, uniqueFieldId_not_mem _ _, fun k => ?_, rfl⟩
  rw [fieldIds_addColumn, List.mem_append, List.mem_singleton, or_comm]

theorem Copied.filled {source : Column} (hcopied : before.Copied source id after) :
    before.Filled id (fun row => Keyed.get? row source.fieldId) after where
  fresh := hcopied.fresh
  mem_fieldIds := by
    obtain ⟨hlt, hsource⟩ := List.getElem?_eq_some_iff.1 hcopied.sourceAt
    have hcolumns := hcopied.columns
    set position := splitTarget before.columns.length before.selectedPositions
    have hbefore : before.columns.take position ++ source :: before.columns.drop (position + 1) =
        before.columns := by
      rw [← hsource, ← List.drop_eq_getElem_cons hlt, List.take_append_drop]
    have hids := congrArg (List.map fun c => c.fieldId) hbefore
    intro k
    rw [fieldIds, fieldIds, hcolumns, ← hids]
    simp only [List.map_append, List.map_cons, List.mem_append, List.mem_cons, Column.copiedAs]
    tauto
  rows := hcopied.rows

theorem Filled.mem_new (hfilled : before.Filled id fill after) : id ∈ after.fieldIds :=
  (hfilled.mem_fieldIds id).2 (.inl rfl)

theorem Filled.fieldIds_ne (hfilled : before.Filled id fill after) :
    after.fieldIds ≠ before.fieldIds :=
  fun hsame => hfilled.fresh (hsame ▸ hfilled.mem_new)

theorem Filled.cell?_eq (hfilled : before.Filled id fill after) (t : Target) :
    after.cell? t =
      if t.fieldId = id then (before.rows[t.row]?.bind fill).or (before.cell? t)
      else before.cell? t := by
  rw [cell?, cell?, hfilled.rows, List.getElem?_map]
  cases before.rows[t.row]? with
  | none => simp
  | some row =>
      simp only [Option.map_some, Option.bind_some, Row.get?_filled]
      split
      · rename_i hid
        rw [hid]
      · rfl

theorem Filled.cell?_of_ne
    (hfilled : before.Filled id fill after) {t : Target} (ht : t.fieldId ≠ id) :
    after.cell? t = before.cell? t := by
  rw [hfilled.cell?_eq, if_neg ht]

theorem Filled.keepsRecords (hfilled : before.Filled id fill after) :
    before.KeepsRecords (· = id) after :=
  keepsRecords_of_map hfilled.rows fun row key hkey => by rw [Row.get?_filled, if_neg hkey]

end Grid
end RecordGrid
