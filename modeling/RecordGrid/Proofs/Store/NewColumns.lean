import RecordGrid.Proofs.Grid.Changes
import RecordGrid.Proofs.Store.GridChange

/-!
# Records under new columns

A column that is added or repeated gets an id that no column has, and records may
hold values under it all the same, as they come from the host.  A new column starts
out empty, and a repeated one with the values of its source, whatever was there
before.  Nothing else in any record changes.
-/

namespace RecordGrid

namespace Grid

variable {before after : Grid} {id : String} {fill : Row → Option Json} {given : Json}

/-- The records go on to hold every value that they hold. -/
def OnlyAdds (before after : Grid) : Prop :=
  ∀ t value, before.cell? t = some value → after.cell? t = some value

/-- A new column takes no value away just where all it brings is there already. -/
theorem Filled.onlyAdds_iff (hfilled : before.Filled id fill after) :
    before.OnlyAdds after ↔
      ∀ row old value, before.cell? ⟨row, id⟩ = some old →
        before.rows[row]?.bind fill = some value → old = value := by
  constructor
  · intro hadds row old value hold hvalue
    have hafter := hadds ⟨row, id⟩ old hold
    rw [hfilled.cell?_eq, if_pos rfl, hvalue, Option.some_or] at hafter
    exact (Option.some.inj hafter).symm
  · intro hsame t old hold
    rw [hfilled.cell?_eq]
    split
    · rename_i hid
      obtain ⟨row, _⟩ := t
      subst hid
      cases hvalue : before.rows[row]?.bind fill with
      | none => rw [Option.none_or, hold]
      | some value => rw [Option.some_or, hsame row old value hold hvalue]
    · exact hold

/-! ## One value for all records -/

theorem bind_given {row : Nat} (hrow : row < before.rowCount) :
    (before.rows[row]?.bind fun _ => some given) = some given := by
  rw [List.getElem?_eq_getElem hrow, Option.bind_some]

theorem Filled.cell?_given
    (hfilled : before.Filled id (fun _ => some given) after) {row : Nat}
    (hrow : row < before.rowCount) : after.cell? ⟨row, id⟩ = some given := by
  rw [hfilled.cell?_eq, if_pos rfl, bind_given hrow, Option.some_or]

theorem Filled.onlyAdds_given_iff (hfilled : before.Filled id (fun _ => some given) after) :
    before.OnlyAdds after ↔ ∀ row old, before.cell? ⟨row, id⟩ = some old → old = given := by
  rw [hfilled.onlyAdds_iff]
  constructor
  · intro hsame row old hold
    exact hsame row old given hold (bind_given (lt_of_cell? hold))
  · intro hgiven row old value hold hvalue
    obtain ⟨_, -, hgives⟩ := Option.bind_eq_some_iff.1 hvalue
    rw [hgiven row old hold, Option.some.inj hgives]

end Grid

namespace Schema

/-- A document with codes, and a record of the host that holds more. -/
def hostedDocument : Json :=
  .obj
    [("columns", .arr [.obj [("field_id", .str "code"), ("field_type", .str "text")]]),
      ("preload_rows", .arr
        [.obj [("batch", .str "B7"), ("code", .str "x"), ("code_copy", .str "old")]])]

def hosted : Schema where
  columns := [.plain "code" "code" "text"]
  preloadRows := some [[("batch", .str "B7"), ("code", .str "x"), ("code_copy", .str "old")]]

theorem hosted_isRead : hosted.IsRead := ⟨hostedDocument, rfl⟩

end Schema

namespace Store

/-- Whether an edit is made or refused, the store has the grid that it returns. -/
theorem grid_step_edit (s : Store) (e : StructuralEdit) :
    (s.step (.edit e)).store.grid = (e.apply s.policy s.grid).grid := by
  simp only [step]
  cases hchange : (e.apply s.policy s.grid).change.isNone with
  | true => rw [commit_of_refused s hchange, quiet_store, StructuralEdit.grid_of_isNone hchange]
  | false => exact (commit_of_changed s hchange e.description).2.grid

theorem filled_step_addColumn (s : Store) (label : String) :
    ∃ id, s.grid.Filled id (fun _ => some (.str ""))
      (s.step (.edit (.addColumn label))).store.grid := by
  rw [grid_step_edit]
  exact s.grid.filled_addColumn label

theorem filled_step_splitColumn (s : Store) :
    (s.step (.edit .splitColumn)).store.grid = s.grid ∨
      ∃ source ∈ s.grid.columns, ∃ id,
        s.grid.Filled id (fun row => Keyed.get? row source.fieldId)
          (s.step (.edit .splitColumn)).store.grid := by
  rw [grid_step_edit]
  cases hchange : (StructuralEdit.splitColumn.apply s.policy s.grid).change.isNone with
  | true => exact .inl (StructuralEdit.grid_of_isNone hchange)
  | false =>
      obtain ⟨source, id, hcopied⟩ := Grid.copied_of_committed hchange
      exact .inr ⟨source, List.mem_of_getElem? hcopied.sourceAt, id, hcopied.filled⟩

/-- A new column changes what records hold under its own id, which no column had, and
nothing else: added, it is empty in every record; repeated, it has the value of its
source in every record that holds one.  It takes a value away just where a record
holds another one under that id. -/
theorem new_column_changes_its_own_field (s : Store) (label : String) :
    let added := (s.step (.edit (.addColumn label))).store.grid
    let repeated := (s.step (.edit .splitColumn)).store.grid
    (∃ id, s.grid.Filled id (fun _ => some (.str "")) added ∧
      (∀ t : Target, t.fieldId ≠ id → added.cell? t = s.grid.cell? t) ∧
      (∀ row < s.grid.rowCount, added.cell? ⟨row, id⟩ = some (.str "")) ∧
      (s.grid.OnlyAdds added ↔
        ∀ row old, s.grid.cell? ⟨row, id⟩ = some old → old = .str "")) ∧
    (repeated = s.grid ∨
      ∃ source ∈ s.grid.columns, ∃ id,
        s.grid.Filled id (fun row => Keyed.get? row source.fieldId) repeated ∧
        (∀ t : Target, t.fieldId ≠ id → repeated.cell? t = s.grid.cell? t) ∧
        (∀ row, repeated.cell? ⟨row, id⟩ =
          (s.grid.cell? ⟨row, source.fieldId⟩).or (s.grid.cell? ⟨row, id⟩)) ∧
        (s.grid.OnlyAdds repeated ↔
          ∀ row old value, s.grid.cell? ⟨row, id⟩ = some old →
            s.grid.cell? ⟨row, source.fieldId⟩ = some value → old = value)) := by
  intro added repeated
  constructor
  · obtain ⟨id, hfilled⟩ := s.filled_step_addColumn label
    exact ⟨id, hfilled, fun t ht => hfilled.cell?_of_ne ht,
      fun row hrow => hfilled.cell?_given hrow, hfilled.onlyAdds_given_iff⟩
  · rcases s.filled_step_splitColumn with hsame | ⟨source, hsource, id, hfilled⟩
    · exact .inl hsame
    · refine .inr ⟨source, hsource, id, hfilled, fun t ht => hfilled.cell?_of_ne ht,
        fun row => ?_, hfilled.onlyAdds_iff⟩
      rw [hfilled.cell?_eq, if_pos rfl]
      rfl

/-- Host data under the id of a new column is lost. -/
theorem host_values_lost_to_new_columns :
    let s := ofSchema .builtin .hosted
    let added := (s.step (.edit (.addColumn "Batch"))).store.grid
    let repeated := (s.step (.edit .splitColumn)).store.grid
    Reachable Schema.IsRead s ∧
      s.grid.cell? ⟨0, "batch"⟩ = some (.str "B7") ∧
      (added.cell? ⟨0, "batch"⟩).bind Json.asStr? = some "" ∧
      s.grid.cell? ⟨0, "code_copy"⟩ = some (.str "old") ∧
      (repeated.cell? ⟨0, "code_copy"⟩).bind Json.asStr? = some "x" ∧
      ¬s.grid.OnlyAdds added ∧ ¬s.grid.OnlyAdds repeated := by
  intro s added repeated
  have hbatch : s.grid.cell? ⟨0, "batch"⟩ = some (.str "B7") := rfl
  have hempty : (added.cell? ⟨0, "batch"⟩).bind Json.asStr? = some "" := by decide +kernel
  have hold : s.grid.cell? ⟨0, "code_copy"⟩ = some (.str "old") := rfl
  have hcopy : (repeated.cell? ⟨0, "code_copy"⟩).bind Json.asStr? = some "x" := by
    decide +kernel
  refine ⟨.start .builtin Schema.hosted_isRead, hbatch, hempty, hold, hcopy, ?_, ?_⟩
  · intro hadds
    rw [hadds _ _ hbatch] at hempty
    exact absurd hempty (by decide)
  · intro hadds
    rw [hadds _ _ hold] at hcopy
    exact absurd hcopy (by decide)

end Store
end RecordGrid
