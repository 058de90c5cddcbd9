import RecordGrid.Proofs.Grid.Consistent
import RecordGrid.Schema.Reading
import RecordGrid.Store.Operation

/-!
# What operations do to the parts of a store

A store comes about by operations on the store of a schema.  For the operations
that change more than one part of a store, every part after the operation is
given by an equation, and later proofs refer to these and not to the operation.
-/

namespace RecordGrid

namespace Schema

/-- The schemas that documents describe. -/
def IsRead (schema : Schema) : Prop := ∃ document, ofJson document = .ok schema

/-- A document with codes, and names that are looked up for them. -/
def sampleDocument : Json :=
  .obj
    [("columns", .arr
        [.obj [("field_id", .str "code"), ("field_type", .str "text")],
          .obj [("bind_field", .str "code"), ("endpoint", .str "/names"),
            ("field_id", .str "name"), ("field_type", .str "text")]]),
      ("pagination", .obj [("enabled", .bool true), ("rows_per_page", .int 1)])]

def sample : Schema where
  columns :=
    [.plain "code" "code" "text",
      { Column.plain "name" "name" "text" with
        endpoint := some "/names", bindField := some "code" }]
  paging := { enabled := true, rowsPerPage := some 1 }

theorem sample_isRead : sample.IsRead := ⟨sampleDocument, rfl⟩

end Schema

namespace Store

/-- An operation with none but the admitted schemas. -/
def Operation.Admitted (admits : Schema → Prop) : Operation → Prop
  | .loadSchema schema => admits schema
  | _ => True

/-- The stores that operations lead to from the store of a schema, as long as
all schemas are admitted. -/
inductive Reachable (admits : Schema → Prop) : Store → Prop where
  | start (registry : Registry) {schema : Schema} (hschema : admits schema) :
      Reachable admits (ofSchema registry schema)
  | step {s : Store} (hs : Reachable admits s) {op : Operation} (hop : op.Admitted admits) :
      Reachable admits (s.step op).store

theorem Reachable.run
    {admits : Schema → Prop} {s : Store} (hs : Reachable admits s)
    {ops : List Operation} (hops : ∀ op ∈ ops, op.Admitted admits) :
    Reachable admits (s.run ops) := by
  induction ops generalizing s with
  | nil => exact hs
  | cons op rest ih =>
      exact ih (hs.step (hops op (List.mem_cons_self ..)))
        (fun later hlater => hops later (List.mem_cons_of_mem _ hlater))

variable {s : Store}

@[simp] theorem publish_store (s : Store) (reply : Reply) : (s.publish reply).store = s := rfl

@[simp] theorem publish_reply (s : Store) (reply : Reply) : (s.publish reply).reply = reply := rfl

@[simp] theorem quiet_store (s : Store) (reply : Reply) : (s.quiet reply).store = s := rfl

@[simp] theorem quiet_reply (s : Store) (reply : Reply) : (s.quiet reply).reply = reply := rfl

/-! ## Edits of cells -/

/-- An edit that is not refused is about a cell of the grid. -/
theorem enter_eq_ok
    {row : Nat} {fieldId : String} {raw value : Json} {stored : Option Json}
    (henter : s.enter row fieldId raw = .ok (value, stored)) :
    s.grid.HasCell ⟨row, fieldId⟩ ∧ stored = s.grid.cell? ⟨row, fieldId⟩ := by
  unfold enter at henter
  split at henter
  · cases henter
  · cases henter
  · rename_i record c hrecord hcolumn
    split at henter
    · cases henter
    · split at henter
      · cases henter
      · cases henter
        refine ⟨⟨(List.getElem?_eq_some_iff.1 hrecord).1, Grid.hasColumn_of_column? hcolumn⟩, ?_⟩
        simp only [Grid.cell?, hrecord, Option.bind_some]

/-- An edit of a cell is refused, finds the value there already, or writes it. -/
theorem updateCell_cases (s : Store) (row : Nat) (fieldId : String) (raw : Json) :
    (∃ e, s.updateCell row fieldId raw = s.quiet (.requests (.error e))) ∨
    (∃ value, (s.grid.cell? ⟨row, fieldId⟩ == some value) = true ∧
      s.updateCell row fieldId raw = s.quiet (.requests (.ok []))) ∨
    (∃ value, (s.grid.cell? ⟨row, fieldId⟩ == some value) = false ∧
      s.grid.HasCell ⟨row, fieldId⟩ ∧
      s.updateCell row fieldId raw = s.write row fieldId value) := by
  unfold updateCell
  split
  · rename_i e _
    exact .inl ⟨e, rfl⟩
  · rename_i value stored henter
    obtain ⟨hthere, rfl⟩ := enter_eq_ok henter
    split
    · rename_i hsame
      exact .inr (.inl ⟨value, hsame, rfl⟩)
    · rename_i hother
      exact .inr (.inr ⟨value, by simpa using hother, hthere, rfl⟩)

/-- The lookups that a written value starts, and the lookups under way then. -/
def planned (s : Store) (row : Nat) (fieldId : String) (value : Json) :
    List Request × Lookups :=
  (s.lookups.supersede ⟨row, fieldId⟩).plan row fieldId value s.grid.columns

theorem write_eq (s : Store) (row : Nat) (fieldId : String) (value : Json) :
    s.write row fieldId value =
      publish
        { s with
          history := s.history.record ("Edit " ++ fieldId) s.grid
          grid := s.grid.setCell row fieldId value
          lookups := (s.planned row fieldId value).2 }
        (.requests (.ok (s.planned row fieldId value).1)) := rfl

/-! ## Answers -/

theorem applyLookup_of_not_current
    {t : Ticket} (hcurrent : s.lookups.isCurrent t = false) (value : Json) :
    s.applyLookup t value = s.quiet (.flag false) := by
  simp [applyLookup, hcurrent]

theorem applyLookup_of_missing
    {t : Ticket} (hcurrent : s.lookups.isCurrent t = true)
    (hmissing : ¬s.grid.HasCell t.target)
    (value : Json) :
    s.applyLookup t value = quiet { s with lookups := s.lookups.retire t } (.flag false) := by
  simp only [applyLookup, hcurrent, if_true]
  exact if_neg hmissing

theorem applyLookup_of_current
    {t : Ticket} (hcurrent : s.lookups.isCurrent t = true)
    (hthere : s.grid.HasCell t.target)
    (value : Json) :
    s.applyLookup t value =
      publish
        { s with
          lookups := s.lookups.retire t
          grid := s.grid.setCell t.target.row t.target.fieldId value }
        (.flag true) := by
  simp only [applyLookup, hcurrent, if_true]
  exact if_pos hthere

/-- A value from a lookup comes too late, finds no cell, or is written. -/
theorem applyLookup_cases (s : Store) (t : Ticket) (value : Json) :
    s.applyLookup t value = s.quiet (.flag false) ∨
    s.applyLookup t value = quiet { s with lookups := s.lookups.retire t } (.flag false) ∨
    s.applyLookup t value =
      publish
        { s with
          lookups := s.lookups.retire t
          grid := s.grid.setCell t.target.row t.target.fieldId value }
        (.flag true) := by
  cases hcurrent : s.lookups.isCurrent t with
  | false => exact .inl (applyLookup_of_not_current hcurrent value)
  | true =>
      by_cases hthere : s.grid.HasCell t.target
      · exact .inr (.inr (applyLookup_of_current hcurrent hthere value))
      · exact .inr (.inl (applyLookup_of_missing hcurrent hthere value))

/-! ## Structural edits -/

/-- What has become of a store whose grid an edit has changed. -/
structure Committed
    (description : String) (t : Transition) (before after : Store) : Prop where
  schema : after.schema = before.schema
  grid : after.grid = t.grid
  history : after.history = before.history.record description before.grid
  lookups : after.lookups =
    let kept := if t.change.renumbered then before.lookups.invalidateAll else before.lookups
    if t.change.columns then kept.retain t.grid.hasColumn else kept
  expressions : after.expressions =
    if t.change.columns then before.expressions.refresh t.grid.columns else before.expressions
  header : after.header =
    if t.change.columns then
      HeaderLayout.ofColumns before.schema.headerStructure t.grid.columns
    else before.header

theorem commit_of_refused
    (s : Store) {t : Transition} (hchange : t.change.isNone = true) (description : String) :
    s.commit description t = s.quiet (.flag false) := by
  simp only [commit, hchange, if_true]

theorem commit_of_changed
    (s : Store) {t : Transition} (hchange : t.change.isNone = false) (description : String) :
    (s.commit description t).reply = .flag true ∧
      s.Committed description t (s.commit description t).store := by
  unfold commit
  rw [hchange]
  cases hrows : t.change.rows <;> cases hcolumns : t.change.columns <;>
    cases hrenumbered : t.change.renumbered <;>
    exact ⟨rfl, by constructor <;> simp [refreshColumns, hcolumns, hrenumbered]⟩

/-! ## The history -/

/-- What has become of a store that has returned to a grid of its history. -/
structure Restored (g : Grid) (history : History Grid) (before after : Store) : Prop where
  schema : after.schema = before.schema
  grid : after.grid = g
  history : after.history = history
  lookups : after.lookups = before.lookups.invalidateAll
  expressions : after.expressions =
    if g.columns != before.grid.columns then before.expressions.refresh g.columns
    else before.expressions
  header : after.header =
    if g.columns != before.grid.columns then
      HeaderLayout.ofColumns before.schema.headerStructure g.columns
    else before.header

theorem restored_restore (g : Grid) (history : History Grid) (s : Store) :
    s.Restored g history (s.restore g history).store := by
  unfold restore
  cases hcolumns : g.columns != s.grid.columns <;>
    constructor <;> simp [refreshColumns, hcolumns]

end Store

end RecordGrid
