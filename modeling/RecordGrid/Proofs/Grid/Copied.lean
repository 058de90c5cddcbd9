import RecordGrid.Proofs.Grid.Edits
import RecordGrid.Proofs.Layout.HeaderOrder

/-!
# Copied columns

A split that is made puts a copy of a column right behind it, under an id that
is free, with the values that the records hold for the column.
-/

namespace RecordGrid

/-- A record with a value under one field, where there is one to put there. -/
def Row.filled (id : String) (fill : Row → Option Json) (row : Row) : Row :=
  (fill row).elim row fun value => Keyed.insert id value row

theorem Row.get?_filled (id : String) (fill : Row → Option Json) (row : Row) (key : String) :
    Keyed.get? (row.filled id fill) key =
      if key = id then (fill row).or (Keyed.get? row id) else Keyed.get? row key := by
  unfold filled
  cases fill row with
  | none =>
      rw [Option.elim_none, Option.none_or]
      split
      · rename_i hkey
        rw [hkey]
      · rfl
  | some value => rw [Option.elim_some, Keyed.get?_insert, Option.some_or]

theorem Row.get?_copied (row : Row) (source target key : String) :
    Keyed.get? (row.copied source target) key =
      if key = target then (Keyed.get? row source).or (Keyed.get? row target)
      else Keyed.get? row key :=
  row.get?_filled target (fun row => Keyed.get? row source) key

/-- The copy of a column. -/
def Column.copiedAs (c : Column) (id : String) : Column :=
  { c with fieldId := id, fieldName := c.fieldName ++ " Copy" }

namespace Grid

variable {g : Grid}

/-- A column has been copied under a new id. -/
structure Copied (source : Column) (id : String) (before after : Grid) : Prop where
  sourceAt :
    before.columns[splitTarget before.columns.length before.selectedPositions]? = some source
  fresh : id ∉ before.fieldIds
  columns :
    let position := splitTarget before.columns.length before.selectedPositions
    after.columns =
      before.columns.take position ++
        source :: source.copiedAs id :: before.columns.drop (position + 1)
  rows : after.rows = before.rows.map fun row => Row.copied row source.fieldId id

theorem copied_of_committed (hchange : g.splitColumn.change.isNone = false) :
    ∃ source id, g.Copied source id g.splitColumn.grid := by
  unfold splitColumn at hchange ⊢
  simp only at hchange ⊢
  set position := splitTarget g.columns.length g.selectedPositions
  split at hchange
  · rename_i source hsource
    set id := uniqueFieldId g.fieldIds (source.fieldId ++ "_copy")
    refine ⟨source, id, ⟨hsource, uniqueFieldId_not_mem _ _, ?_, rfl⟩⟩
    have hlength : (g.columns.take (position + 1)).length = position + 1 := by
      obtain ⟨hlt, -⟩ := List.getElem?_eq_some_iff.1 hsource
      rw [List.length_take]
      omega
    have hplaced := HeaderNode.insertIdx_length_append
      (g.columns.take (position + 1)) (g.columns.drop (position + 1)) (source.copiedAs id)
    rw [List.take_append_drop, hlength, List.take_add_one, hsource, List.append_assoc] at hplaced
    exact hplaced
  · cases hchange

theorem Copied.record
    {source : Column} {id : String} {after : Grid} (hcopied : g.Copied source id after)
    {row : Nat} {record : Row} (hrecord : g.rows[row]? = some record) :
    after.rows[row]? = some (record.copied source.fieldId id) := by
  rw [hcopied.rows, List.getElem?_map, hrecord, Option.map_some]

theorem Copied.id_ne
    {source : Column} {id : String} {after : Grid} (hcopied : g.Copied source id after) :
    source.fieldId ≠ id := by
  rintro rfl
  exact hcopied.fresh (List.mem_map.2 ⟨source, List.mem_of_getElem? hcopied.sourceAt, rfl⟩)

end Grid
end RecordGrid
