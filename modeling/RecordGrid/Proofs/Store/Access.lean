import RecordGrid.Proofs.Schema.ColumnItems
import RecordGrid.Proofs.Store.Entries
import RecordGrid.Proofs.Store.Views

/-!
# Access to the columns of documents

The object of a column may bar sessions from it: all of them, or those whose role is
not on a list.  A column that is read from the whole object bars them, whatever the
record and whatever is entered.  An object with a malformed key is read for the id,
the name and the type of the column alone, so what it says about access is dropped
with the rest, and the type of the column decides.
-/

namespace RecordGrid

namespace Column

variable {members : List (String × Json)} {role : Option String} {c : Column}

/-- The object bars sessions of a role from its column.  A session without a role
has the empty one. -/
inductive Excludes (members : List (String × Json)) : Option String → Prop
  | everyone (hreadOnly : Keyed.get? members "read_only" = some (.bool true))
      (role : Option String) : Excludes members role
  | others {roles : List String}
      (hroles : Keyed.get? members "signed_by_role" = some (Json.strings roles))
      (hsome : roles ≠ []) {role : Option String} (hrole : role.getD "" ∉ roles) :
      Excludes members role

/-- Whether the settings of a column bar sessions of a role. -/
def bars (c : Column) (role : Option String) : Bool := c.readOnly || !c.permitsRole role

/-- A column that is read from the whole object bars whom the object excludes. -/
theorem bars_of_excludes
    (hread : ofJson? (.obj members) = some c) (hexcludes : Excludes members role) :
    c.bars role = true := by
  obtain ⟨-, hreadOnly, hroles⟩ := guards_of_ofJson? hread
  cases hexcludes with
  | everyone hgiven =>
      rw [Json.defaulted, show members.lookup "read_only" = _ from hgiven] at hreadOnly
      rw [bars, ← Option.some.inj hreadOnly, Bool.true_or]
  | @others roles hgiven hsome _ hrole =>
      have hlist : Json.asList? Json.asStr? (Json.strings roles) = some roles :=
        (Json.Spelling.asWritten.reads_strings roles).2
      rw [Json.defaulted, show members.lookup "signed_by_role" = _ from hgiven] at hroles
      obtain rfl : roles = c.signedByRole := Option.some.inj (hlist.symm.trans hroles)
      simp [bars, permitsRole, hsome, hrole]

/-- The column under another name, which a merge gives it. -/
def renamed (c : Column) (name : String) : Column := { c with fieldName := name }

theorem bars_renamed (c : Column) (name : String) (role : Option String) :
    (c.renamed name).bars role = c.bars role := rfl

theorem renamed_named (c : Column) (name : String) : c.named.renamed name = c.renamed name := by
  unfold named
  split <;> rfl

@[simp] theorem fieldType_named (c : Column) : c.named.fieldType = c.fieldType := by
  unfold named
  split <;> rfl

/-- Of a malformed object nothing is left but what identifies its column. -/
theorem renamed_salvage (members : List (String × Json)) (name : String) :
    (salvage members).named.renamed name =
      .plain (salvage members).fieldId name (salvage members).fieldType :=
  renamed_named _ name

end Column

/-! ## Refusals -/

namespace Viewer

variable {v : Viewer} {c : Column} {derived : Row}

theorem refusal?_of_bars (hbars : c.bars v.role = true) :
    v.refusal? c derived = some (.readOnly c.fieldId) := by
  have hclosed : (c.readOnly || (v.behavior c).isReadOnly || !c.permitsRole v.role) = true := by
    rw [Column.bars, Bool.or_eq_true] at hbars
    rcases hbars with hreadOnly | hrole
    · rw [hreadOnly, Bool.true_or, Bool.true_or]
    · rw [hrole, Bool.or_true]
  rw [refusal?, if_pos hclosed]

/-- A column without settings is as open as its type, whoever asks. -/
theorem refusal?_plain (v : Viewer) (fieldId name fieldType : String) (derived : Row) :
    v.refusal? (.plain fieldId name fieldType) derived =
      if (v.registry.resolve fieldType).isReadOnly then some (.readOnly fieldId) else none := by
  have hvisible : v.expressions.isVisible (.plain fieldId name fieldType) derived = true := rfl
  simp only [refusal?, hvisible]
  simp [Column.plain, Column.permitsRole, behavior]

end Viewer

namespace Store

variable {s : Store} {c : Column} {fieldId : String}

theorem refusedBy_access_iff
    {row : Nat} {record : Row} (hrecord : s.grid.rows[row]? = some record)
    (hcolumn : s.grid.column? fieldId = some c) (raw : Json) :
    (s.updateCell row fieldId raw).RefusedBy .access ↔
      (s.viewer.refusal? c (s.viewer.derive s.grid.columns record)).isSome = true := by
  rw [(entry_updateCell s row fieldId raw).refusedBy_iff, Fails, editable?_of_cell hrecord hcolumn]
  cases s.viewer.refusal? c (s.viewer.derive s.grid.columns record) <;> simp

theorem refused_of_bars
    (hcolumn : s.grid.column? fieldId = some c) (hbars : c.bars s.role = true)
    (row : Nat) (raw : Json) :
    ∃ e, s.updateCell row fieldId raw = s.quiet (.requests (.error e)) := by
  unfold updateCell enter
  cases hrecord : s.grid.rows[row]? with
  | none => exact ⟨_, rfl⟩
  | some record =>
      have hrefusal : s.viewer.refusal? c (s.viewer.derive s.grid.columns record) =
          some (.readOnly c.fieldId) := Viewer.refusal?_of_bars hbars
      simp only [hcolumn, hrefusal]
      exact ⟨_, rfl⟩

/-- A column that is read from an object, in a store whose session the object
excludes. -/
theorem refused_of_readFrom
    {members : List (String × Json)} (hread : Column.ReadFrom members c)
    (hexcludes : Column.Excludes members s.role) {name : String}
    (hcolumn : s.grid.column? fieldId = some (c.renamed name)) (row : Nat) (raw : Json) :
    ((Column.ofJson? (.obj members)).isSome = true →
      ∃ e, s.updateCell row fieldId raw = s.quiet (.requests (.error e))) ∧
    (row < s.grid.rowCount →
      ((s.updateCell row fieldId raw).RefusedBy .access ↔
        (Column.ofJson? (.obj members)).isSome = true ∨
          (s.viewer.behavior c).isReadOnly = true)) := by
  have haccess : row < s.grid.rowCount → ∃ derived,
      ((s.updateCell row fieldId raw).RefusedBy .access ↔
        (s.viewer.refusal? (c.renamed name) derived).isSome = true) := fun hrow =>
    ⟨_, refusedBy_access_iff (List.getElem?_eq_getElem hrow) hcolumn raw⟩
  cases hread with
  | @whole d hd =>
      have hbars : (d.named.renamed name).bars s.role = true := by
        rw [Column.renamed_named, Column.bars_renamed]
        exact Column.bars_of_excludes hd hexcludes
      refine ⟨fun _ => refused_of_bars hcolumn hbars row raw, fun hrow => ?_⟩
      obtain ⟨derived, hrefused⟩ := haccess hrow
      rw [hrefused, Viewer.refusal?_of_bars hbars, hd]
      exact iff_of_true rfl (.inl rfl)
  | salvaged hnone =>
      refine ⟨fun hwhole => ?_, fun hrow => ?_⟩
      · rw [hnone] at hwhole
        cases hwhole
      · obtain ⟨derived, hrefused⟩ := haccess hrow
        have htype : s.viewer.behavior (Column.salvage members).named =
            s.viewer.registry.resolve (Column.salvage members).fieldType := by
          rw [Viewer.behavior, Column.fieldType_named]
        rw [hrefused, Column.renamed_salvage, Viewer.refusal?_plain, hnone, htype]
        cases (s.viewer.registry.resolve (Column.salvage members).fieldType).isReadOnly <;> simp

theorem column?_loadSchema
    {schema : Schema} (hschema : schema.IsRead) (hc : c ∈ schema.columns) (before : Store) :
    (before.loadSchema schema).store.grid.column? c.fieldId = some c :=
  Grid.column?_of_mem (g := (before.loadSchema schema).store.grid) hschema.columns_nodup hc

/-- A document's column is in the grid once the document is loaded.  If it was read
from a whole object, it is closed to every session that the object excludes: no edit
gets through, in whatever record and of whatever value, for as long as the column is
there, be it under another name.  Where a key of the object is malformed, what it
says about access is lost: sessions that it excludes are refused access just where
the type of the column takes no edits. -/
theorem excluded_sessions_refused
    {root members : List (String × Json)} {schema : Schema}
    (hschema : Schema.ofJson (.obj root) = .ok schema) (hc : c ∈ schema.columns)
    (hobject : (Schema.columnItems root).find? (Json.carries c.fieldId) = some (.obj members))
    {role : Option String} (hexcludes : Column.Excludes members role) :
    (∀ before : Store, (before.loadSchema schema).store.grid.column? c.fieldId = some c) ∧
    ∀ s : Store, s.role = role → ∀ name, s.grid.column? c.fieldId = some (c.renamed name) →
      ∀ row raw,
        ((Column.ofJson? (.obj members)).isSome = true →
          ∃ e, s.updateCell row c.fieldId raw = s.quiet (.requests (.error e))) ∧
        (row < s.grid.rowCount →
          ((s.updateCell row c.fieldId raw).RefusedBy .access ↔
            (Column.ofJson? (.obj members)).isSome = true ∨
              (s.viewer.behavior c).isReadOnly = true)) := by
  obtain ⟨members', hfirst, hread⟩ := (Schema.firstOfItems_of_ofJson hschema).first c hc
  obtain rfl : members' = members := Json.obj.inj (Option.some.inj (hfirst.symm.trans hobject))
  refine ⟨column?_loadSchema ⟨_, hschema⟩ hc, ?_⟩
  rintro s rfl name hcolumn row raw
  exact refused_of_readFrom hread hexcludes hcolumn row raw

/-- A document with one column, for codes; its object also says something about
access. -/
def codeDocument (members : List (String × Json)) : List (String × Json) :=
  [("columns", .arr [.obj members])]

def lockedCode (precision : Json) : List (String × Json) :=
  [("field_id", .str "code"), ("field_name", .str "Code"), ("field_type", .str "text"),
    ("precision", precision), ("read_only", .bool true)]

def signedCode (precision : Json) : List (String × Json) :=
  [("field_id", .str "code"), ("field_name", .str "Code"), ("field_type", .str "text"),
    ("precision", precision), ("signed_by_role", .arr [.str "qa"])]

/-- An operator may not edit what quality assurance signs. -/
theorem excluded_sessions_refused_in_signed :
    let c : Column :=
      { Column.plain "code" "Code" "text" with precision := some 2, signedByRole := ["qa"] }
    let s := ((blank .builtin).loadSchema { columns := [c] }).store.setRole (some "operator")
    Schema.ofJson (.obj (codeDocument (signedCode (.int 2)))) = .ok { columns := [c] } ∧
      (Schema.columnItems (codeDocument (signedCode (.int 2)))).find? (Json.carries c.fieldId) =
        some (.obj (signedCode (.int 2))) ∧
      Column.Excludes (signedCode (.int 2)) s.role ∧
      s.grid.column? c.fieldId = some (c.renamed "Code") ∧
      (∃ e, s.updateCell 0 c.fieldId (.str "x") = s.quiet (.requests (.error e))) ∧
      (s.updateCell 0 c.fieldId (.str "x")).RefusedBy .access := by
  intro c s
  have hschema : Schema.ofJson (.obj (codeDocument (signedCode (.int 2)))) =
      .ok { columns := [c] } := rfl
  have hobject : (Schema.columnItems (codeDocument (signedCode (.int 2)))).find?
      (Json.carries c.fieldId) = some (.obj (signedCode (.int 2))) := rfl
  have hroles : Keyed.get? (signedCode (.int 2)) "signed_by_role" =
      some (Json.strings ["qa"]) := rfl
  have hexcludes : Column.Excludes (signedCode (.int 2)) s.role :=
    .others hroles (by decide) (by decide)
  have hcolumn : s.grid.column? c.fieldId = some (c.renamed "Code") := rfl
  obtain ⟨-, hclosed⟩ :=
    excluded_sessions_refused hschema (List.mem_singleton_self c) hobject hexcludes
  obtain ⟨hrefused, haccess⟩ := hclosed s rfl "Code" hcolumn 0 (.str "x")
  exact ⟨hschema, hobject, hexcludes, hcolumn, hrefused rfl, (haccess (by decide)).2 (.inl rfl)⟩

/-- A number of digits that is no number opens a column that is read-only, and one
that is left to a role, to every session. -/
theorem malformed_key_opens_column :
    let schema : Schema := { columns := [.plain "code" "Code" "text"] }
    let s := ofSchema .builtin schema
    let operator := s.setRole (some "operator")
    Schema.ofJson (.obj (codeDocument (lockedCode (.str "two")))) = .ok schema ∧
      Column.Excludes (lockedCode (.str "two")) s.role ∧
      (s.updateCell 0 "code" (.str "x")).Accepted ∧
      Schema.ofJson (.obj (codeDocument (signedCode (.str "two")))) = .ok schema ∧
      Column.Excludes (signedCode (.str "two")) operator.role ∧
      (operator.updateCell 0 "code" (.str "x")).Accepted := by
  intro schema s operator
  have hlocked : Schema.ofJson (.obj (codeDocument (lockedCode (.str "two")))) = .ok schema := rfl
  have hsigned : Schema.ofJson (.obj (codeDocument (signedCode (.str "two")))) = .ok schema := rfl
  have hroles : Keyed.get? (signedCode (.str "two")) "signed_by_role" =
      some (Json.strings ["qa"]) := rfl
  have hoperator : Column.Excludes (signedCode (.str "two")) operator.role :=
    .others hroles (by decide) (by decide)
  exact ⟨hlocked, .everyone rfl _, ⟨[], rfl⟩, hsigned, hoperator, ⟨[], rfl⟩⟩

end Store

end RecordGrid
