import RecordGrid.Proofs.Grid.Fields
import RecordGrid.Proofs.Store.GridChange
import RecordGrid.Proofs.Store.Undo

/-!
# The fields that the records of a session name

As long as no records come from a document or from the host, all values come
from defaults and from edits.  A record is seeded with the defaults of the
schema, whatever columns there are by then, so seeding anew brings back the
defaults of columns that were removed.  Nothing else makes a record name what is
not there.
-/

namespace RecordGrid
namespace Store

variable {s next : Store} {spare : String → Prop} {ops : List Operation}

/-- The operation brings no records with it. -/
def Operation.BringsNoRecords : Operation → Prop
  | .loadSchema schema => schema.preloadRows = none
  | .supplyRows rows => rows = []
  | _ => True

/-- Whenever the records are seeded anew, the columns with a default are there. -/
def ReseedsInPlace (s : Store) (ops : List Operation) : Prop :=
  ∀ before rows after, ops = before ++ .supplyRows rows :: after →
    ∀ k, Defaulted (s.run before).schema.columns k → k ∈ (s.run before).grid.fieldIds

/-- All records that are seeded are records of defaults. -/
structure SeedsDefaults (s : Store) : Prop where
  preloadRows : s.schema.preloadRows = none
  externalRows : s.externalRows = []

structure Files (spare : String → Prop) (s : Store) : Prop where
  grid : s.grid.Files spare
  history : s.history.All (Grid.Files spare)

theorem mem_fields_seedRows
    {schema : Schema} (hpreload : schema.preloadRows = none) {row : Row}
    (hrow : row ∈ schema.seedRows []) {k : String} :
    k ∈ Row.fields row ↔ Defaulted schema.columns k := by
  have hseed : row = schema.defaultRow := by
    simp only [Schema.seedRows, hpreload, List.isEmpty_nil, if_true, Option.getD_none] at hrow
    exact List.eq_of_mem_replicate hrow
  rw [hseed, Schema.defaultRow, mem_fields_defaultRow]

/-! ## One operation -/

theorem SeedsDefaults.step
    (hs : s.SeedsDefaults) {op : Operation} (hop : op.BringsNoRecords) :
    (s.step op).store.SeedsDefaults := by
  have hkept {next : Store} (hsource : s.SameSource next) : next.SeedsDefaults :=
    ⟨hsource.schema ▸ hs.preloadRows, hsource.externalRows ▸ hs.externalRows⟩
  cases s.gridChange_step op with
  | loaded schema hinstalled =>
      rw [hinstalled]
      exact ⟨hop, hs.externalRows⟩
  | supplied rows hreseeded =>
      rw [hreseeded]
      exact ⟨hs.preloadRows, hop⟩
  | kept hsource => exact hkept hsource
  | answered hsource => exact hkept hsource
  | entered _ _ _ _ hsource => exact hkept hsource
  | edited _ hsource => exact hkept hsource
  | undone hsource => exact hkept hsource
  | redone hsource => exact hkept hsource

theorem Files.install
    {schema : Schema} (hpreload : schema.preloadRows = none) (hrows : s.externalRows = []) :
    (s.install schema).Files spare where
  grid := by
    intro row hrow k hk
    have hseed : row ∈ schema.seedRows [] := hrows ▸ hrow
    exact .inl (Grid.mem_fieldIds_of_defaulted ((mem_fields_seedRows hpreload hseed).1 hk))
  history := History.All.clear _

theorem Files.supplyRows
    (hs : s.SeedsDefaults)
    (hdefaulted : ∀ k, Defaulted s.schema.columns k → k ∈ s.grid.fieldIds ∨ spare k) :
    (s.supplyRows []).store.Files spare where
  grid := by
    intro row hrow k hk
    exact hdefaulted k ((mem_fields_seedRows hs.preloadRows hrow).1 hk)
  history := History.All.clear _

/-- What neither loads a schema nor seeds records keeps what records name. -/
theorem Files.change
    (hs : s.Files spare) {op : Operation} (hchange : s.GridChange next op)
    (hload : ∀ schema, op ≠ .loadSchema schema) (hsupply : ∀ rows, op ≠ .supplyRows rows) :
    next.Files spare := by
  cases hchange with
  | loaded schema => exact absurd rfl (hload schema)
  | supplied rows => exact absurd rfl (hsupply rows)
  | kept _ hcolumns hrows hhistory =>
      exact ⟨hs.grid.sameRows hcolumns hrows, hhistory ▸ hs.history⟩
  | answered _ t value hthere hgrid hhistory =>
      exact ⟨hgrid ▸ hs.grid.setCell hthere.2 value, hhistory ▸ hs.history⟩
  | entered row fieldId raw value _ hthere hgrid hhistory =>
      exact ⟨hgrid ▸ hs.grid.setCell hthere.2 value, hhistory ▸ hs.history.record _ hs.grid⟩
  | edited e _ hgrid hhistory =>
      exact ⟨hgrid ▸ hs.grid.apply s.policy e, hhistory ▸ hs.history.record _ hs.grid⟩
  | undone _ htravel =>
      obtain ⟨hgrid, hhistory⟩ := hs.history.undo hs.grid htravel
      exact ⟨hgrid, hhistory⟩
  | redone _ htravel =>
      obtain ⟨hgrid, hhistory⟩ := hs.history.redo hs.grid htravel
      exact ⟨hgrid, hhistory⟩

theorem schema_change
    {op : Operation} (hchange : s.GridChange next op)
    (hload : ∀ schema, op ≠ .loadSchema schema) :
    next.schema = s.schema := by
  cases hchange with
  | loaded schema => exact absurd rfl (hload schema)
  | supplied rows hreseeded => rw [hreseeded]; rfl
  | kept hsource => exact hsource.schema
  | answered hsource => exact hsource.schema
  | entered _ _ _ _ hsource => exact hsource.schema
  | edited _ hsource => exact hsource.schema
  | undone hsource => exact hsource.schema
  | redone hsource => exact hsource.schema

/-- Records name columns and what the schema has a default for. -/
theorem Files.step_defaulted
    (hs : s.Files (Defaulted s.schema.columns)) (hseeds : s.SeedsDefaults)
    {op : Operation} (hop : op.BringsNoRecords) :
    (s.step op).store.Files (Defaulted (s.step op).store.schema.columns) := by
  have hchange := s.gridChange_step op
  by_cases hload : ∃ schema, op = .loadSchema schema
  · obtain ⟨schema, rfl⟩ := hload
    exact Files.install hop hseeds.externalRows
  · have hload : ∀ schema, op ≠ .loadSchema schema := fun schema h => hload ⟨schema, h⟩
    rw [schema_change hchange hload]
    by_cases hsupply : ∃ rows, op = .supplyRows rows
    · obtain ⟨rows, rfl⟩ := hsupply
      cases hop
      exact Files.supplyRows hseeds fun k hk => .inr hk
    · exact hs.change hchange hload fun rows h => hsupply ⟨rows, h⟩

/-- Records name columns, where seeding anew finds the columns there. -/
theorem Files.step_inPlace
    (hs : s.Files spare) (hseeds : s.SeedsDefaults) {op : Operation} (hop : op.BringsNoRecords)
    (hinPlace : ∀ rows, op = .supplyRows rows →
      ∀ k, Defaulted s.schema.columns k → k ∈ s.grid.fieldIds) :
    (s.step op).store.Files spare := by
  cases op with
  | loadSchema schema => exact Files.install hop hseeds.externalRows
  | supplyRows rows =>
      cases hop
      exact Files.supplyRows hseeds fun k hk => .inl (hinPlace _ rfl k hk)
  | _ => exact hs.change (s.gridChange_step _) (by simp) (by simp)

/-! ## Runs -/

theorem seedsDefaults_run
    (hs : s.SeedsDefaults) (hops : ∀ op ∈ ops, op.BringsNoRecords) :
    (s.run ops).SeedsDefaults := by
  induction ops generalizing s with
  | nil => exact hs
  | cons op rest ih =>
      obtain ⟨hop, hrest⟩ := List.forall_mem_cons.1 hops
      exact ih (hs.step hop) hrest

theorem files_defaulted_run
    (hs : s.Files (Defaulted s.schema.columns)) (hseeds : s.SeedsDefaults)
    (hops : ∀ op ∈ ops, op.BringsNoRecords) :
    (s.run ops).Files (Defaulted (s.run ops).schema.columns) := by
  induction ops generalizing s with
  | nil => exact hs
  | cons op rest ih =>
      obtain ⟨hop, hrest⟩ := List.forall_mem_cons.1 hops
      exact ih (hs.step_defaulted hseeds hop) (hseeds.step hop) hrest

theorem reseedsInPlace_cons {op : Operation} (hinPlace : s.ReseedsInPlace (op :: ops)) :
    (∀ rows, op = .supplyRows rows →
      ∀ k, Defaulted s.schema.columns k → k ∈ s.grid.fieldIds) ∧
      (s.step op).store.ReseedsInPlace ops := by
  constructor
  · rintro rows rfl
    exact hinPlace [] rows ops rfl
  · intro before rows after hsplit
    exact hinPlace (op :: before) rows after (by rw [hsplit, List.cons_append])

theorem files_inPlace_run
    (hs : s.Files spare) (hseeds : s.SeedsDefaults) (hops : ∀ op ∈ ops, op.BringsNoRecords)
    (hinPlace : s.ReseedsInPlace ops) :
    (s.run ops).Files spare := by
  induction ops generalizing s with
  | nil => exact hs
  | cons op rest ih =>
      obtain ⟨hop, hrest⟩ := List.forall_mem_cons.1 hops
      obtain ⟨hfirst, hlater⟩ := reseedsInPlace_cons hinPlace
      exact ih (hs.step_inPlace hseeds hop hfirst) (hseeds.step hop) hrest hlater

/-- In a session without records from documents or from the host, records name
only columns and fields that the loaded schema has a default for.  They name
only columns as long as the columns with a default are there whenever the records
are seeded anew; and that is exactly what seeding them anew takes. -/
theorem records_name_columns_of_run
    (registry : Registry) (schema : Schema) (ops : List Operation)
    (hschema : schema.preloadRows = none) (hops : ∀ op ∈ ops, op.BringsNoRecords) :
    let start := ofSchema registry schema
    let final := start.run ops
    let reseeded := (final.step (.supplyRows [])).store
    (∀ row ∈ final.grid.rows, ∀ k ∈ Row.fields row,
      k ∈ final.grid.fieldIds ∨ Defaulted final.schema.columns k) ∧
    (start.ReseedsInPlace ops →
      ∀ row ∈ final.grid.rows, ∀ k ∈ Row.fields row, k ∈ final.grid.fieldIds) ∧
    ((∀ row ∈ reseeded.grid.rows, ∀ k ∈ Row.fields row, k ∈ reseeded.grid.fieldIds) ↔
      ∀ k, Defaulted final.schema.columns k → k ∈ final.grid.fieldIds) := by
  intro start final reseeded
  have hseeds : start.SeedsDefaults := ⟨hschema, rfl⟩
  have hstart (spare : String → Prop) : start.Files spare := Files.install hschema rfl
  have hfinal : final.SeedsDefaults := seedsDefaults_run hseeds hops
  refine ⟨(files_defaulted_run (hstart _) hseeds hops).grid, ?_, ?_⟩
  · intro hinPlace row hrow k hk
    have hfiles : final.Files fun _ => False :=
      files_inPlace_run (hstart _) hseeds hops hinPlace
    exact (hfiles.grid row hrow k hk).resolve_right id
  · constructor
    · intro hnamed k hk
      have hone : final.schema.defaultRow ∈ final.schema.seedRows [] := by
        simp only [Schema.seedRows, hfinal.preloadRows, List.isEmpty_nil, if_true,
          Option.getD_none, List.mem_replicate, and_true]
        unfold RowControls.initialRowCount
        split <;> simp
      exact hnamed _ hone k ((mem_fields_seedRows hfinal.preloadRows hone).2 hk)
    · intro hthere row hrow k hk
      exact hthere k ((mem_fields_seedRows hfinal.preloadRows hrow).1 hk)

/-- Notes with a count, which is one unless something else is entered. -/
def counted : Schema where
  columns :=
    [{ Column.plain "count" "count" "number" with defaultValue := some (.int 1) },
      .plain "note" "note" "text"]

/-- The count is removed after the records were seeded anew, and a record is
added without it. -/
theorem records_name_columns_in_counted :
    let ops : List Operation :=
      [.supplyRows [], .updateCell 0 "note" (.str "N"), .edit (.removeColumn "count"),
        .edit .addRow]
    let final := (ofSchema .builtin counted).run ops
    counted.preloadRows = none ∧ (∀ op ∈ ops, op.BringsNoRecords) ∧
      (ofSchema .builtin counted).ReseedsInPlace ops ∧
      final.grid.rows = [[("note", .str "N")], []] ∧
      ∀ row ∈ final.grid.rows, ∀ k ∈ Row.fields row, k ∈ final.grid.fieldIds := by
  intro ops final
  have hops : ∀ op ∈ ops, op.BringsNoRecords := by simp [ops, Operation.BringsNoRecords]
  have hinPlace : (ofSchema .builtin counted).ReseedsInPlace ops := by
    intro before rows after hsplit k hk
    have hbefore : before = [] := by
      rcases before with _ | ⟨first, before⟩
      · rfl
      · have hmem : Operation.supplyRows rows ∈ ops.tail := by
          rw [hsplit, List.cons_append, List.tail_cons]
          exact List.mem_append_right before (List.mem_cons_self ..)
        simp [ops] at hmem
    subst hbefore
    exact Grid.mem_fieldIds_of_defaulted hk
  obtain ⟨-, hnamed, -⟩ := records_name_columns_of_run .builtin counted ops rfl hops
  exact ⟨rfl, hops, hinPlace, rfl, hnamed hinPlace⟩

/-- The count is back in the records that are seeded after it was removed. -/
theorem reseeded_records_name_removed_column :
    let ops : List Operation := [.edit (.removeColumn "count"), .supplyRows []]
    let final := (ofSchema .builtin counted).run ops
    counted.preloadRows = none ∧ (∀ op ∈ ops, op.BringsNoRecords) ∧
      final.grid.rows = [[("count", .int 1)]] ∧
      ∃ row ∈ final.grid.rows, ∃ k ∈ Row.fields row, k ∉ final.grid.fieldIds := by
  intro ops final
  have hops : ∀ op ∈ ops, op.BringsNoRecords := by simp [ops, Operation.BringsNoRecords]
  have hrows : final.grid.rows = [[("count", .int 1)]] := rfl
  have hids : final.grid.fieldIds = ["note"] := rfl
  refine ⟨rfl, hops, hrows, [("count", .int 1)], ?_, "count", ?_, ?_⟩
  · rw [hrows]
    exact List.mem_singleton_self _
  · exact List.mem_singleton_self _
  · rw [hids]
    decide

end Store
end RecordGrid
