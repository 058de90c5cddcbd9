import Mathlib.Data.List.InsertIdx
import RecordGrid.Proofs.Grid.Edits
import RecordGrid.Proofs.Grid.Merged
import RecordGrid.Proofs.Keyed

/-!
# The fields that records name

A record names the fields under which it holds values.  Edits take the values of
a column out of all records together with the column, and put in no values but
under columns, so records go on to name columns only.
-/

namespace RecordGrid

namespace Row

variable {k : String} {row : Row}

/-- The fields under which a record holds values. -/
def fields (row : Row) : List String := Keyed.keys row

theorem mem_fields_overlay {upper : Row} :
    k ∈ fields (overlay upper row) ↔ k ∈ fields upper ∨ k ∈ fields row := by
  induction upper generalizing row with
  | nil => simp [overlay, fields, Keyed.keys]
  | cons m rest ih =>
      have hstep : overlay (m :: rest) row = overlay rest (Keyed.insert m.1 m.2 row) := rfl
      have hrow : k ∈ fields (Keyed.insert m.1 m.2 row) ↔ k = m.1 ∨ k ∈ fields row :=
        Keyed.mem_keys_insert
      rw [hstep, ih, hrow]
      simp only [fields, Keyed.keys, List.map_cons, List.mem_cons]
      tauto

theorem mem_fields_fold {kept dropped : String} (hk : k ∈ fields (fold row kept dropped)) :
    k = kept ∨ k ∈ fields row ∧ k ≠ dropped := by
  rw [fields, fold, Keyed.mem_keys_insert, Keyed.mem_keys_erase] at hk
  exact hk

theorem mem_fields_copied {source target : String} (hk : k ∈ fields (copied row source target)) :
    k = target ∨ k ∈ fields row := by
  unfold copied at hk
  cases hvalue : Keyed.get? row source with
  | none =>
      rw [hvalue] at hk
      exact .inr hk
  | some value =>
      rw [hvalue] at hk
      exact Keyed.mem_keys_insert.1 hk

end Row

/-- The fields with a declared default. -/
def Defaulted (columns : List Column) (k : String) : Prop :=
  ∃ c ∈ columns, c.defaultValue.isSome ∧ c.fieldId = k

theorem mem_fields_defaultRow {columns : List Column} {k : String} :
    k ∈ Row.fields (defaultRow columns) ↔ Defaulted columns k := by
  have hfrom (row : Row) :
      k ∈ Row.fields (columns.foldl
          (fun row c => c.defaultValue.elim row fun v => Keyed.insert c.fieldId v row) row) ↔
        k ∈ Row.fields row ∨ Defaulted columns k := by
    induction columns generalizing row with
    | nil => simp [Defaulted]
    | cons c rest ih =>
        rw [List.foldl_cons, ih]
        cases hvalue : c.defaultValue with
        | none => simp [Defaulted, hvalue]
        | some value =>
            simp only [Option.elim_some, Row.fields, Keyed.mem_keys_insert, Defaulted,
              List.exists_mem_cons_iff, hvalue, Option.isSome_some, true_and]
            tauto
  rw [defaultRow, hfrom]
  simp [Row.fields, Keyed.keys]

namespace Grid

/-- Every field that a record names is that of a column, or a spare one. -/
def Files (spare : String → Prop) (g : Grid) : Prop :=
  ∀ row ∈ g.rows, ∀ k ∈ Row.fields row, k ∈ g.fieldIds ∨ spare k

variable {spare : String → Prop} {g : Grid}

theorem mem_fieldIds_of_defaulted {k : String} (hk : Defaulted g.columns k) : k ∈ g.fieldIds := by
  obtain ⟨c, hc, -, rfl⟩ := hk
  exact List.mem_map_of_mem hc

theorem fieldIds_mergeColumns (hchange : g.mergeColumns.change.isNone = false) :
    g.mergeColumns.grid.fieldIds =
      g.fieldIds.eraseIdx (mergeTargets g.columns.length g.selectedPositions).2 := by
  unfold mergeColumns at hchange ⊢
  cases htargets : mergeTargets g.columns.length g.selectedPositions with
  | mk lower upper =>
      simp only [htargets] at hchange ⊢
      split at hchange
      · rename_i kept dropped hkept hdropped
        split at hchange
        · rename_i htwo
          obtain ⟨hlower, -⟩ := mergeTargets_lt htwo g.selectedPositions
          rw [htargets] at hlower
          have hsame : (g.fieldIds.eraseIdx upper)[lower]? = some kept.fieldId := by
            rw [List.getElem?_eraseIdx_of_lt hlower, fieldIds_getElem?, hkept]
            rfl
          simp only [htwo, if_true, Transition.ofColumns, fieldIds, List.map_set,
            List.eraseIdx_map] at hsame ⊢
          obtain ⟨hlt, hvalue⟩ := List.getElem?_eq_some_iff.1 hsame
          rw [← hvalue, List.set_getElem_self]
        · cases hchange
      · cases hchange

theorem of_mem_modify
    {rows : List Row} {i : Nat} {f : Row → Row} {row : Row} (hrow : row ∈ rows.modify i f) :
    ∃ old ∈ rows, row = old ∨ row = f old := by
  obtain ⟨j, hj⟩ := List.mem_iff_getElem?.1 hrow
  rw [List.getElem?_modify] at hj
  cases hold : rows[j]? with
  | none =>
      rw [hold] at hj
      cases hj
  | some old =>
      rw [hold] at hj
      refine ⟨old, List.mem_of_getElem? hold, ?_⟩
      have hvalue : row = if i = j then f old else old := (Option.some.inj hj).symm
      split at hvalue
      · exact .inr hvalue
      · exact .inl hvalue

/-- A record that is not there names nothing. -/
theorem of_mem_fields_getD
    {rows : List Row} {i : Nat} {k : String} (hk : k ∈ Row.fields (rows.getD i [])) :
    ∃ row ∈ rows, k ∈ Row.fields row := by
  rw [List.getD_eq_getElem?_getD] at hk
  cases hthere : rows[i]? with
  | none =>
      rw [hthere] at hk
      cases hk
  | some row =>
      rw [hthere] at hk
      exact ⟨row, List.mem_of_getElem? hthere, hk⟩

namespace Files

/-- Records that name less, in a grid with the same columns. -/
theorem ofRows
    (hg : g.Files spare) {next : Grid} (hcolumns : next.columns = g.columns)
    (hrows : ∀ row ∈ next.rows, ∀ k ∈ Row.fields row,
      k ∈ g.fieldIds ∨ ∃ old ∈ g.rows, k ∈ Row.fields old) :
    next.Files spare := by
  intro row hrow k hk
  have hids : next.fieldIds = g.fieldIds := by rw [fieldIds, hcolumns, fieldIds]
  rw [hids]
  rcases hrows row hrow k hk with hid | ⟨old, hold, hk⟩
  · exact .inl hid
  · exact hg old hold k hk

theorem sameRows
    (hg : g.Files spare) {next : Grid} (hcolumns : next.columns = g.columns)
    (hrows : next.rows = g.rows) :
    next.Files spare := by
  refine hg.ofRows hcolumns fun row hrow k hk => .inr ⟨row, ?_, hk⟩
  rwa [hrows] at hrow

theorem setCell
    (hg : g.Files spare) {row : Nat} {fieldId : String} (hcolumn : g.hasColumn fieldId = true)
    (value : Json) :
    (g.setCell row fieldId value).Files spare := by
  refine hg.ofRows rfl fun record hrecord k hk => ?_
  obtain ⟨old, hold, rfl | rfl⟩ := of_mem_modify hrecord
  · exact .inr ⟨_, hold, hk⟩
  · rcases Keyed.mem_keys_insert.1 hk with rfl | hk
    · exact .inl (hasColumn_iff.1 hcolumn)
    · exact .inr ⟨old, hold, hk⟩

theorem addRow (hg : g.Files spare) (p : Policy) : (g.addRow p).grid.Files spare := by
  unfold Grid.addRow
  split
  · refine hg.ofRows rfl fun row hrow k hk => ?_
    rcases List.mem_append.1 hrow with hold | hnew
    · exact .inr ⟨row, hold, hk⟩
    · rw [List.mem_singleton.1 hnew, mem_fields_defaultRow] at hk
      exact .inl (mem_fieldIds_of_defaulted hk)
  · exact hg

theorem removeRow (hg : g.Files spare) (p : Policy) (index : Nat) :
    (g.removeRow p index).grid.Files spare := by
  unfold Grid.removeRow
  split
  · exact hg.ofRows rfl fun row hrow k hk => .inr ⟨row, List.mem_of_mem_eraseIdx hrow, hk⟩
  · exact hg

theorem mergeRows (hg : g.Files spare) (p : Policy) : (g.mergeRows p).grid.Files spare := by
  unfold Grid.mergeRows
  split
  · refine hg.ofRows rfl fun row hrow k hk => ?_
    obtain ⟨old, hold, hvalue⟩ := of_mem_modify hrow
    have hmem : old ∈ g.rows := List.mem_of_mem_eraseIdx hold
    rcases hvalue with rfl | rfl
    · exact .inr ⟨_, hmem, hk⟩
    · rcases Row.mem_fields_overlay.1 hk with hupper | hlower
      · exact .inr (of_mem_fields_getD hupper)
      · exact .inr ⟨old, hmem, hlower⟩
  · exact hg

theorem splitRow (hg : g.Files spare) (p : Policy) : (g.splitRow p).grid.Files spare := by
  unfold Grid.splitRow
  split
  · refine hg.ofRows rfl fun row hrow k hk => ?_
    rcases List.eq_or_mem_of_mem_insertIdx hrow with rfl | hold
    · exact .inr (of_mem_fields_getD hk)
    · exact .inr ⟨row, hold, hk⟩
  · exact hg

theorem addColumn (hg : g.Files spare) (label : String) :
    (g.addColumn label).grid.Files spare := by
  intro row hrow k hk
  obtain ⟨old, hold, rfl⟩ := List.mem_map.1 hrow
  rw [fieldIds_addColumn, List.mem_append, List.mem_singleton]
  rcases Keyed.mem_keys_insert.1 hk with hnew | hk
  · exact .inl (.inr hnew)
  · exact (hg old hold k hk).imp .inl id

theorem removeColumn (hg : g.Files spare) (fieldId : String) :
    (g.removeColumn fieldId).grid.Files spare := by
  cases hindex : g.columnIndex? fieldId with
  | none => simpa only [Grid.removeColumn, hindex, Transition.unchanged] using hg
  | some i =>
      have hids := fieldIds_removeColumn hindex
      have hrows : (g.removeColumn fieldId).grid.rows = g.rows.map (Keyed.erase fieldId) := by
        simp only [Grid.removeColumn, hindex, Transition.ofColumns]
      intro row hrow k hk
      rw [hrows] at hrow
      obtain ⟨old, hold, rfl⟩ := List.mem_map.1 hrow
      obtain ⟨hk, hne⟩ := Keyed.mem_keys_erase.1 hk
      refine (hg old hold k hk).imp_left fun hid => ?_
      obtain ⟨j, hj⟩ := List.mem_iff_getElem?.1 hid
      rw [hids, List.mem_eraseIdx_iff_getElem?]
      refine ⟨j, ?_, hj⟩
      rintro rfl
      rw [getElem?_of_columnIndex? hindex] at hj
      exact hne (Option.some.inj hj).symm

theorem mergeColumns (hg : g.Files spare) : g.mergeColumns.grid.Files spare := by
  cases hchange : g.mergeColumns.change.isNone with
  | true =>
      rcases mergeColumns_cases g with hsame | ⟨next, upper, hnext, -⟩
      · rw [hsame]
        exact hg
      · rw [hnext] at hchange
        cases hchange
  | false =>
      obtain ⟨kept, dropped, hmerged⟩ := merged_of_committed hchange
      intro row hrow k hk
      rw [hmerged.rows] at hrow
      obtain ⟨old, hold, rfl⟩ := List.mem_map.1 hrow
      rcases Row.mem_fields_fold hk with rfl | ⟨hk, hne⟩
      · exact .inl (hasColumn_iff.1 hmerged.stays)
      · refine (hg old hold k hk).imp_left fun hid => ?_
        obtain ⟨j, hj⟩ := List.mem_iff_getElem?.1 hid
        rw [fieldIds_mergeColumns hchange, List.mem_eraseIdx_iff_getElem?]
        refine ⟨j, ?_, hj⟩
        rintro rfl
        rw [fieldIds_getElem?, hmerged.droppedAt] at hj
        exact hne (Option.some.inj hj).symm

theorem splitColumn (hg : g.Files spare) : g.splitColumn.grid.Files spare := by
  unfold Grid.splitColumn
  simp only
  split
  · rename_i source hsource
    have hposition := (List.getElem?_eq_some_iff.1 hsource).1
    intro row hrow k hk
    obtain ⟨old, hold, rfl⟩ := List.mem_map.1 hrow
    simp only [Transition.ofColumns, fieldIds, List.map_insertIdx]
    rw [List.mem_insertIdx (by rw [List.length_map]; exact hposition)]
    rcases Row.mem_fields_copied hk with hnew | hk
    · exact .inl (.inl hnew)
    · exact (hg old hold k hk).imp_left .inr
  · exact hg

theorem apply (hg : g.Files spare) (p : Policy) (e : StructuralEdit) :
    (e.apply p g).grid.Files spare := by
  cases e with
  | addRow => exact hg.addRow p
  | removeRow index => exact hg.removeRow p index
  | mergeRows => exact hg.mergeRows p
  | splitRow => exact hg.splitRow p
  | addColumn label => exact hg.addColumn label
  | removeColumn fieldId => exact hg.removeColumn fieldId
  | mergeColumns => exact hg.mergeColumns
  | splitColumn => exact hg.splitColumn

end Files
end Grid
end RecordGrid
