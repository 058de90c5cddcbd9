import RecordGrid.Proofs.Grid.Records

/-!
# What an edit says about itself

A store goes by the change that an edit returns: without one it records nothing and
tells nobody, and where no record has moved it keeps the lookups under way.  An
edit never says less than it does.  Where it says that nothing has changed, nothing
has; what it does not name is as it was; and where it does not number the records
anew, each one holds what it held, but for the columns that the edit is about.
-/

namespace RecordGrid

/-- A change misses nothing: neither that there is one, nor what has changed. -/
structure Transition.Sound (touched : String → Prop) (before : Grid) (t : Transition) : Prop where
  isNone_iff : t.change.isNone = true ↔ t.grid = before
  columns : t.change.columns = false → t.grid.columns = before.columns
  rows : t.change.rows = false → t.grid.rows = before.rows
  records : t.change.renumbered = false → before.KeepsRecords touched t.grid

namespace Grid

variable {g : Grid}

/-! ## Columns that go -/

theorem not_mem_eraseIdx
    {ids : List String} (hids : ids.Nodup) {i : Nat} {id : String} (hid : ids[i]? = some id) :
    id ∉ ids.eraseIdx i := by
  rw [List.mem_eraseIdx_iff_getElem?]
  rintro ⟨j, hne, hj⟩
  have hlt := (List.getElem?_eq_some_iff.1 hj).1
  exact hne ((List.getElem?_inj hlt hids).1 (hj.trans hid.symm))

/-- A column has been taken away, with all that the records hold under it. -/
structure Removed (fieldId : String) (before after : Grid) : Prop where
  present : fieldId ∈ before.fieldIds
  gone : fieldId ∉ after.fieldIds
  rows : after.rows = before.rows.map (Keyed.erase fieldId)

theorem removed_of_committed
    (hdistinct : g.fieldIds.Nodup) {fieldId : String}
    (hchange : (g.removeColumn fieldId).change.isNone = false) :
    g.Removed fieldId (g.removeColumn fieldId).grid := by
  cases hindex : g.columnIndex? fieldId with
  | none =>
      simp only [removeColumn, hindex] at hchange
      cases hchange
  | some i =>
      have hplace := getElem?_of_columnIndex? hindex
      refine ⟨List.mem_of_getElem? hplace, ?_, ?_⟩
      · rw [fieldIds_removeColumn hindex]
        exact not_mem_eraseIdx hdistinct hplace
      · simp only [removeColumn, hindex, Transition.ofColumns]

theorem Merged.dropped_gone
    (hdistinct : g.fieldIds.Nodup) {kept dropped : Column}
    (hmerged : g.Merged kept dropped g.mergeColumns.grid)
    (hchange : g.mergeColumns.change.isNone = false) :
    dropped.fieldId ∈ g.fieldIds ∧ dropped.fieldId ∉ g.mergeColumns.grid.fieldIds := by
  have hplace : g.fieldIds[(mergeTargets g.columns.length g.selectedPositions).2]? =
      some dropped.fieldId := by
    rw [fieldIds_getElem?, hmerged.droppedAt, Option.map_some]
  refine ⟨List.mem_of_getElem? hplace, ?_⟩
  rw [fieldIds_mergeColumns hchange]
  exact not_mem_eraseIdx hdistinct hplace

/-- The id of the column that a merge of columns keeps. -/
def mergedInto? (g : Grid) : Option String :=
  if 2 ≤ g.columns.length then
    g.columns[(mergeTargets g.columns.length g.selectedPositions).1]?.map (·.fieldId)
  else none

theorem Merged.mergedInto?_eq
    {kept dropped : Column} (hmerged : g.Merged kept dropped g.mergeColumns.grid)
    (hchange : g.mergeColumns.change.isNone = false) :
    g.mergedInto? = some kept.fieldId := by
  rw [mergedInto?, if_pos (hmerged.two_le hchange), hmerged.keptAt, Option.map_some]

end Grid

namespace StructuralEdit

variable {p : Policy} {e : StructuralEdit} {g : Grid}

/-- An edit creates the column with an id, drops it, or merges another into it. -/
inductive Touches (p : Policy) (e : StructuralEdit) (g : Grid) (id : String) : Prop where
  | creates (fresh : id ∉ g.fieldIds) (present : id ∈ (e.apply p g).grid.fieldIds)
  | drops (present : id ∈ g.fieldIds) (gone : id ∉ (e.apply p g).grid.fieldIds)
  | mergesInto (merges : e = .mergeColumns) (kept : g.mergedInto? = some id)

/-! ## Whether there is a change -/

/-- An edit of columns that is made creates one or drops one. -/
theorem fieldIds_ne_of_committed
    (hdistinct : g.fieldIds.Nodup) (hchange : (e.apply p g).change.isNone = false)
    (hcolumns : e.mark.columns = true) :
    (e.apply p g).grid.fieldIds ≠ g.fieldIds := by
  cases e with
  | addRow => cases hcolumns
  | removeRow index => cases hcolumns
  | mergeRows => cases hcolumns
  | splitRow => cases hcolumns
  | addColumn label =>
      obtain ⟨id, hfilled⟩ := g.filled_addColumn label
      exact hfilled.fieldIds_ne
  | removeColumn fieldId =>
      have hremoved := Grid.removed_of_committed hdistinct hchange
      exact fun hsame => hremoved.gone (hsame ▸ hremoved.present)
  | mergeColumns =>
      obtain ⟨kept, dropped, hmerged⟩ := Grid.merged_of_committed hchange
      obtain ⟨hpresent, hgone⟩ := hmerged.dropped_gone hdistinct hchange
      exact fun hsame => hgone (hsame ▸ hpresent)
  | splitColumn =>
      obtain ⟨source, id, hcopied⟩ := Grid.copied_of_committed hchange
      exact hcopied.filled.fieldIds_ne

theorem grid_ne_of_committed
    (hdistinct : g.fieldIds.Nodup) (hchange : (e.apply p g).change.isNone = false) :
    (e.apply p g).grid ≠ g := by
  intro hsame
  cases hcolumns : e.mark.columns with
  | false =>
      have hcount := congrArg Grid.rowCount hsame
      rcases rowCount_of_committed hchange hcolumns with ⟨-, hgrown⟩ | ⟨-, hshrunk⟩ <;> omega
  | true =>
      exact fieldIds_ne_of_committed hdistinct hchange hcolumns (congrArg Grid.fieldIds hsame)

/-! ## What has changed -/

/-- Unless records get other positions, they hold what they held, but for the
columns that the edit is about. -/
theorem keepsRecords_apply
    (hdistinct : g.fieldIds.Nodup) (hrenumbered : (e.apply p g).change.renumbered = false) :
    g.KeepsRecords (e.Touches p g) (e.apply p g).grid := by
  cases hchange : (e.apply p g).change.isNone with
  | true =>
      rw [grid_of_isNone hchange]
      exact .refl _ g
  | false =>
      rw [change_of_committed hchange] at hrenumbered
      cases e with
      | addRow =>
          simp only [apply, Grid.addRow] at hchange ⊢
          split at hchange
          · rename_i hroom
            rw [if_pos hroom]
            exact Grid.keepsRecords_of_append rfl
          · cases hchange
      | removeRow index => cases hrenumbered
      | mergeRows => cases hrenumbered
      | splitRow => cases hrenumbered
      | addColumn label =>
          obtain ⟨id, hfilled⟩ := g.filled_addColumn label
          refine hfilled.keepsRecords.mono ?_
          rintro _ rfl
          exact .creates hfilled.fresh hfilled.mem_new
      | removeColumn fieldId =>
          have hremoved := Grid.removed_of_committed hdistinct hchange
          refine Grid.keepsRecords_of_map hremoved.rows fun row key hkey => ?_
          rw [Keyed.get?_erase, if_neg]
          rintro rfl
          exact hkey (.drops hremoved.present hremoved.gone)
      | mergeColumns =>
          obtain ⟨kept, dropped, hmerged⟩ := Grid.merged_of_committed hchange
          obtain ⟨hpresent, hgone⟩ := hmerged.dropped_gone hdistinct hchange
          refine Grid.keepsRecords_of_map hmerged.rows fun row key hkey => row.get?_fold_of_ne ?_ ?_
          · rintro rfl
            exact hkey (.mergesInto rfl (hmerged.mergedInto?_eq hchange))
          · rintro rfl
            exact hkey (.drops hpresent hgone)
      | splitColumn =>
          obtain ⟨source, id, hcopied⟩ := Grid.copied_of_committed hchange
          refine hcopied.filled.keepsRecords.mono ?_
          rintro _ rfl
          exact .creates hcopied.fresh hcopied.filled.mem_new

/-- The change that an edit returns is sound, on every grid whose columns have ids of
their own. -/
theorem change_is_sound
    (p : Policy) (e : StructuralEdit) {g : Grid} (hdistinct : g.fieldIds.Nodup) :
    (e.apply p g).Sound (e.Touches p g) g where
  isNone_iff := by
    refine ⟨grid_of_isNone, fun hsame => ?_⟩
    by_contra hchange
    exact grid_ne_of_committed hdistinct (by simpa using hchange) hsame
  columns := by
    intro hcolumns
    rcases e.apply_cases p g with hrefused | hmark
    · rw [hrefused]
      rfl
    · rw [hmark] at hcolumns
      exact columns_apply hcolumns
  rows := by
    intro hrows
    rcases e.apply_cases p g with hrefused | hmark
    · rw [hrefused]
      rfl
    · rw [hmark] at hrows
      cases e <;> cases hrows
  records := keepsRecords_apply hdistinct

/-- Names in two columns, and a note in none. -/
def named : Grid where
  columns := [.plain "first" "First" "text", .plain "last" "Last" "text"]
  rows := [[("first", .str "Ada"), ("last", .str "Byron"), ("note", .str "new")]]

/-- A merge of the columns with the names leaves the note alone. -/
theorem change_is_sound_merging_named :
    let merged := mergeColumns.apply {} named
    named.fieldIds.Nodup ∧ merged.change = { rows := true, columns := true } ∧
      merged.grid ≠ named ∧ ¬mergeColumns.Touches {} named "note" ∧
      merged.grid.cell? ⟨0, "note"⟩ = named.cell? ⟨0, "note"⟩ ∧
      merged.grid.cell? ⟨0, "first"⟩ = some (.str "Ada Byron") := by
  intro merged
  have hdistinct : named.fieldIds.Nodup := by decide
  have hsound := change_is_sound {} .mergeColumns hdistinct
  have hids : merged.grid.fieldIds = ["first"] := rfl
  have hnote : ¬mergeColumns.Touches {} named "note" := by
    rintro (⟨-, hpresent⟩ | ⟨hpresent, -⟩ | ⟨-, hkept⟩)
    · rw [hids] at hpresent
      exact absurd hpresent (by decide)
    · exact absurd hpresent (by decide)
    · exact absurd hkept (by decide)
  refine ⟨hdistinct, rfl, ?_, hnote, ?_, rfl⟩
  · intro hsame
    have hnone : merged.change.isNone = true := hsound.isNone_iff.2 hsame
    cases hnone
  · exact (hsound.records rfl).cell?_eq ⟨0, "note"⟩ (by decide) hnote

end StructuralEdit
end RecordGrid
