import RecordGrid.Proofs.Field.Refused
import RecordGrid.Proofs.Field.Settled
import RecordGrid.Proofs.Lookup.Tickets
import RecordGrid.Proofs.Store.Consistent
import RecordGrid.Proofs.Store.Undo

/-!
# Entries

An edit of a cell and the view of the cell agree: what is not shown cannot be
edited, and neither can what is shown as closed.  A refused edit changes nothing
at all.  One that is accepted changes its cell, is remembered by the history,
and sends a request for every column that is bound to the field.
-/

namespace RecordGrid
namespace Store

variable {s : Store} {row : Nat} {fieldId : String} {raw value : Json} {entry : Step}

/-- Whether the view of a cell lets it be edited, where there is such a cell. -/
def editable? (s : Store) (row : Nat) (fieldId : String) : Option Bool :=
  (s.cellView? row fieldId).map (·.editable)

/-- What a column makes of a value that is entered. -/
def coerced? (s : Store) (fieldId : String) (raw : Json) : Option (Except EditError Json) :=
  (s.grid.column? fieldId).map fun c => (s.viewer.behavior c).coerce (s.viewer.context c) raw

/-- The step is an edit that the check refuses. -/
def Step.RefusedBy (entry : Step) (check : EditCheck) : Prop :=
  ∃ e, entry.reply = .requests (.error e) ∧ e.check = check

def Step.Accepted (entry : Step) : Prop := ∃ requests, entry.reply = .requests (.ok requests)

/-- The first check that the edit does not pass. -/
def Fails (s : Store) (row : Nat) (fieldId : String) (raw : Json) : EditCheck → Prop
  | .cell => s.editable? row fieldId = none
  | .access => s.editable? row fieldId = some false
  | .value => s.editable? row fieldId = some true ∧ ∃ e, s.coerced? fieldId raw = some (.error e)

structure Passes (s : Store) (row : Nat) (fieldId : String) (raw value : Json) : Prop where
  editable : s.editable? row fieldId = some true
  coerced : s.coerced? fieldId raw = some (.ok value)

theorem Fails.unique
    {check other : EditCheck} (hfails : s.Fails row fieldId raw check)
    (hother : s.Fails row fieldId raw other) :
    check = other := by
  cases check <;> cases other <;> first | rfl | simp_all [Fails]

theorem Passes.not_fails (hpasses : s.Passes row fieldId raw value) (check : EditCheck) :
    ¬s.Fails row fieldId raw check := by
  obtain ⟨hopen, hvalue⟩ := hpasses
  cases check <;> simp [Fails, hopen, hvalue]

/-- How an edit of a cell comes out: it is refused, finds its value there
already, or writes it. -/
inductive Entry (s : Store) (row : Nat) (fieldId : String) (raw : Json) : Step → Prop where
  | refused {e : EditError} (hfails : s.Fails row fieldId raw e.check)
      (hnames : e.Names row fieldId) :
      Entry s row fieldId raw (s.quiet (.requests (.error e)))
  | kept {value : Json} (hpasses : s.Passes row fieldId raw value)
      (hsame : (s.grid.cell? ⟨row, fieldId⟩ == some value) = true) :
      Entry s row fieldId raw (s.quiet (.requests (.ok [])))
  | written {value : Json} (hpasses : s.Passes row fieldId raw value)
      (hthere : s.grid.HasCell ⟨row, fieldId⟩)
      (hother : (s.grid.cell? ⟨row, fieldId⟩ == some value) = false) :
      Entry s row fieldId raw (s.write row fieldId value)

theorem editable?_of_missing
    (hmissing : s.grid.rows[row]? = none ∨ s.grid.column? fieldId = none) :
    s.editable? row fieldId = none := by
  unfold editable? cellView?
  rcases hmissing with hrecord | hcolumn
  · simp [hrecord]
  · cases s.grid.rows[row]? <;> simp [hcolumn]

section

variable {record : Row} {c : Column}

theorem editable?_of_cell
    (hrecord : s.grid.rows[row]? = some record) (hcolumn : s.grid.column? fieldId = some c) :
    s.editable? row fieldId =
      some (s.viewer.refusal? c (s.viewer.derive s.grid.columns record)).isNone := by
  simp only [editable?, cellView?, hrecord, hcolumn, Option.map_some, Viewer.cell]

theorem entry_of_cell
    (hrecord : s.grid.rows[row]? = some record) (hcolumn : s.grid.column? fieldId = some c)
    (raw : Json) :
    s.Entry row fieldId raw (s.updateCell row fieldId raw) := by
  have hid : c.fieldId = fieldId := by simpa using List.find?_some hcolumn
  have hview := editable?_of_cell hrecord hcolumn
  have hvalue : s.coerced? fieldId raw =
      some ((s.viewer.behavior c).coerce (s.viewer.context c) raw) := by
    rw [coerced?, hcolumn, Option.map_some]
  cases hrefusal : s.viewer.refusal? c (s.viewer.derive s.grid.columns record) with
  | some e =>
      obtain ⟨hcheck, hnames⟩ := Viewer.of_refusal?_eq_some hrefusal
      rw [hrefusal] at hview
      have hfails : s.Fails row fieldId raw e.check := by
        rw [hcheck]
        exact hview
      simp only [updateCell, enter, hrecord, hcolumn, hrefusal]
      exact .refused hfails (hid ▸ hnames row)
  | none =>
      rw [hrefusal] at hview
      cases hcoerce : (s.viewer.behavior c).coerce (s.viewer.context c) raw with
      | error e =>
          have hopen := Viewer.isReadOnly_of_refusal?_eq_none hrefusal
          have hrefuses := Behavior.refusesValue_of_coerce hopen hcoerce
          rw [hcoerce] at hvalue
          have hfails : s.Fails row fieldId raw e.check := by
            rw [hrefuses.check]
            exact ⟨hview, e, hvalue⟩
          simp only [updateCell, enter, hrecord, hcolumn, hrefusal, hcoerce]
          exact .refused hfails (hid ▸ hrefuses.names row)
      | ok value =>
          rw [hcoerce] at hvalue
          have hpasses : s.Passes row fieldId raw value := ⟨hview, hvalue⟩
          have henter : s.enter row fieldId raw = .ok (value, Keyed.get? record fieldId) := by
            simp only [enter, hrecord, hcolumn, hrefusal, hcoerce]
          obtain ⟨hthere, hstored⟩ := enter_eq_ok henter
          simp only [updateCell, henter, hstored]
          split
          · rename_i hsame
            exact .kept hpasses hsame
          · rename_i hother
            exact .written hpasses hthere (Bool.eq_false_iff.2 hother)

end

theorem entry_updateCell (s : Store) (row : Nat) (fieldId : String) (raw : Json) :
    s.Entry row fieldId raw (s.updateCell row fieldId raw) := by
  cases hrecord : s.grid.rows[row]? with
  | none =>
      have hview : s.editable? row fieldId = none := editable?_of_missing (.inl hrecord)
      simp only [updateCell, enter, hrecord]
      exact .refused hview rfl
  | some record =>
      cases hcolumn : s.grid.column? fieldId with
      | none =>
          have hview : s.editable? row fieldId = none := editable?_of_missing (.inr hcolumn)
          simp only [updateCell, enter, hrecord, hcolumn]
          exact .refused hview rfl
      | some c => exact entry_of_cell hrecord hcolumn raw

/-! ## Refused edits -/

theorem not_refusedBy_of_ok
    {requests : List Request} (hreply : entry.reply = .requests (.ok requests))
    (check : EditCheck) :
    ¬entry.RefusedBy check := by
  rintro ⟨e, herror, -⟩
  rw [hreply] at herror
  cases herror

theorem Entry.refusedBy_iff (hentry : s.Entry row fieldId raw entry) (check : EditCheck) :
    entry.RefusedBy check ↔ s.Fails row fieldId raw check := by
  cases hentry with
  | refused hfails hnames =>
      constructor
      · rintro ⟨e, hreply, rfl⟩
        cases hreply
        exact hfails
      · intro hcheck
        exact ⟨_, rfl, hfails.unique hcheck⟩
  | kept hpasses =>
      exact iff_of_false (not_refusedBy_of_ok (quiet_reply ..) check) (hpasses.not_fails check)
  | written hpasses =>
      rw [write_eq]
      exact iff_of_false (not_refusedBy_of_ok (publish_reply ..) check) (hpasses.not_fails check)

theorem Entry.accepted_iff (hentry : s.Entry row fieldId raw entry) :
    entry.Accepted ↔ ∃ value, s.Passes row fieldId raw value := by
  cases hentry with
  | refused hfails hnames =>
      constructor
      · rintro ⟨requests, hreply⟩
        cases hreply
      · rintro ⟨value, hpasses⟩
        exact absurd hfails (hpasses.not_fails _)
  | kept hpasses => exact iff_of_true ⟨_, rfl⟩ ⟨_, hpasses⟩
  | written hpasses => exact iff_of_true ⟨_, rfl⟩ ⟨_, hpasses⟩

/-- A refused edit changes nothing, and its error is about the cell. -/
theorem Entry.of_refused
    (hentry : s.Entry row fieldId raw entry) {e : EditError}
    (hreply : entry.reply = .requests (.error e)) :
    entry = s.quiet (.requests (.error e)) ∧ e.Names row fieldId := by
  cases hentry with
  | refused hfails hnames =>
      cases hreply
      exact ⟨rfl, hnames⟩
  | kept => cases hreply
  | written => cases hreply

/-! ## Accepted edits -/

/-- Another value has been entered into a cell. -/
structure Entered
    (cell : Target) (value : Json) (requests : List Request) (before after : Store) : Prop where
  grid : before.grid.WrittenAt after.grid cell value
  records : ∀ i, i ≠ cell.row → after.grid.rows[i]? = before.grid.rows[i]?
  undoStack : after.history.undoStack =
    ⟨"Edit " ++ cell.fieldId, before.grid⟩ ::
      before.history.undoStack.take (before.history.limit - 1)
  redoStack : after.history.redoStack = []
  looksUp : List.Forall₂ (Request.LooksUp cell value)
    (before.grid.columns.filter fun c => c.isEnrichedFrom cell.fieldId) requests
  current : ∀ r ∈ requests, after.lookups.isCurrent r.ticket = true
  others : after =
    { before with grid := after.grid, history := after.history, lookups := after.lookups }

theorem entered_write
    (hdistinct : s.grid.fieldIds.Nodup) (hlimit : 1 ≤ s.history.limit)
    (hthere : s.grid.HasCell ⟨row, fieldId⟩) (value : Json) :
    Entered ⟨row, fieldId⟩ value (s.planned row fieldId value).1 s
      (s.write row fieldId value).store := by
  rw [write_eq, publish_store]
  constructor
  case grid => exact Grid.writtenAt_setCell ⟨row, fieldId⟩ value hthere.1
  case records =>
    intro i hi
    exact List.getElem?_modify_ne _ _ (Ne.symm hi)
  case undoStack =>
    obtain ⟨n, hn⟩ : ∃ n, s.history.limit = n + 1 := ⟨s.history.limit - 1, by omega⟩
    simp only [History.record, hn, List.take_succ_cons, Nat.add_sub_cancel]
  case redoStack => rfl
  case looksUp => exact Lookups.looksUp_plan row fieldId value s.grid.columns _
  case current =>
    intro r hr
    exact Lookups.isCurrent_of_mem_plan hdistinct hr
  case others => rfl

theorem Entry.of_accepted
    (hs : Reachable Schema.IsRead s) (hentry : s.Entry row fieldId raw entry)
    {requests : List Request} (hreply : entry.reply = .requests (.ok requests)) :
    ∃ value,
      s.coerced? fieldId raw = some (.ok value) ∧
      ((s.grid.cell? ⟨row, fieldId⟩ == some value) = true ∧
          entry = s.quiet (.requests (.ok [])) ∨
        (s.grid.cell? ⟨row, fieldId⟩ == some value) = false ∧
          Entered ⟨row, fieldId⟩ value requests s entry.store) := by
  cases hentry with
  | refused => cases hreply
  | kept hpasses hsame => exact ⟨_, hpasses.coerced, .inl ⟨hsame, rfl⟩⟩
  | written hpasses hthere hother =>
      have hdistinct : s.grid.fieldIds.Nodup := hs.consistent.grid.distinct
      have hlimit : 1 ≤ s.history.limit := hs.coherent.history.positive
      cases hreply
      exact ⟨_, hpasses.coerced, .inr ⟨hother, entered_write hdistinct hlimit hthere _⟩⟩

/-- Whatever has been done to a store, an edit fails for want of a cell exactly
where there is no view of the cell, and for want of access exactly where the view
is not editable; any other edit is accepted if the column takes the value.  A
refused edit leaves the store as it is.  So does one that finds its value there
already, and asks for nothing; any other changes its cell alone, is the one
thing to undo next with nothing to redo, and asks once for every column that is
bound to the field, in their order, by tickets that count. -/
theorem updateCell_agrees_with_cellView
    (hs : Reachable Schema.IsRead s) (row : Nat) (fieldId : String) (raw : Json) :
    let cell : Target := ⟨row, fieldId⟩
    let entry := s.step (.updateCell row fieldId raw)
    (entry.RefusedBy .cell ↔ s.cellView? row fieldId = none) ∧
    (entry.RefusedBy .access ↔
      ∃ view, s.cellView? row fieldId = some view ∧ view.editable = false) ∧
    (entry.Accepted ↔
      (∃ view, s.cellView? row fieldId = some view ∧ view.editable = true) ∧
        ∃ value, s.coerced? fieldId raw = some (.ok value)) ∧
    (∀ e, entry.reply = .requests (.error e) →
      entry = s.quiet (.requests (.error e)) ∧ e.Names row fieldId) ∧
    (∀ requests, entry.reply = .requests (.ok requests) →
      ∃ value,
        s.coerced? fieldId raw = some (.ok value) ∧
        ((s.grid.cell? cell == some value) = true ∧ entry = s.quiet (.requests (.ok [])) ∨
          (s.grid.cell? cell == some value) = false ∧
            Entered cell value requests s entry.store)) := by
  intro cell entry
  have hentry : s.Entry row fieldId raw entry := s.entry_updateCell row fieldId raw
  refine ⟨?_, ?_, ?_, ?_, ?_⟩
  · rw [hentry.refusedBy_iff, Fails, editable?, Option.map_eq_none_iff]
  · rw [hentry.refusedBy_iff, Fails, editable?, Option.map_eq_some_iff]
  · rw [hentry.accepted_iff, ← Option.map_eq_some_iff, ← exists_and_left]
    exact exists_congr fun value => ⟨fun h => ⟨h.editable, h.coerced⟩, fun h => ⟨h.1, h.2⟩⟩
  · intro e hreply
    exact hentry.of_refused hreply
  · intro requests hreply
    exact hentry.of_accepted hs hreply

/-- An edit of a record that is not there, one that starts a lookup for a name,
and the same one again. -/
theorem updateCell_agrees_with_cellView_in_sample :
    let s := ofSchema .builtin .sample
    let first := s.step (.updateCell 0 "code" (.str "x"))
    let again := first.store.step (.updateCell 0 "code" (.str "x"))
    Reachable Schema.IsRead s ∧
      (s.step (.updateCell 5 "code" (.str "x"))).RefusedBy .cell ∧
      first.reply = .requests (.ok [⟨⟨⟨0, "name"⟩, 1, 1⟩, "/names", "code", "x"⟩]) ∧
      first.store.grid.cell? ⟨0, "code"⟩ = some (.str "x") ∧
      first.store.lookups.isCurrent ⟨⟨0, "name"⟩, 1, 1⟩ = true ∧
      again.store = first.store := by
  intro s first again
  have hs : Reachable Schema.IsRead s := .start .builtin Schema.sample_isRead
  have hfirst : Reachable Schema.IsRead first.store := hs.step trivial
  obtain ⟨hmissing, -⟩ := updateCell_agrees_with_cellView hs 5 "code" (.str "x")
  obtain ⟨-, -, -, -, haccepted⟩ := updateCell_agrees_with_cellView hs 0 "code" (.str "x")
  obtain ⟨-, -, -, -, hagain⟩ := updateCell_agrees_with_cellView hfirst 0 "code" (.str "x")
  obtain ⟨value, hvalue, hsame | ⟨-, hentered⟩⟩ :=
    haccepted [⟨⟨⟨0, "name"⟩, 1, 1⟩, "/names", "code", "x"⟩] rfl
  · cases hsame.1
  · obtain rfl : Json.str "x" = value := by
      cases hvalue
      rfl
    obtain ⟨value, hvalue, hsame | ⟨hother, -⟩⟩ := hagain [] rfl
    · have hunchanged := congrArg Step.store hsame.2
      refine ⟨hs, hmissing.2 rfl, rfl, hentered.grid.written, ?_, hunchanged⟩
      exact hentered.current _ (List.mem_cons_self ..)
    · cases hvalue
      cases hother

/-! ## Entering what is there -/

theorem updateCell_of_stored
    (hstored : s.grid.cell? ⟨row, fieldId⟩ = some value) (hself : (value == value) = true)
    (hagain : s.coerced? fieldId value = some (.ok value)) :
    ∃ reply, s.updateCell row fieldId value = s.quiet reply := by
  have hentry := s.entry_updateCell row fieldId value
  generalize s.updateCell row fieldId value = entry at hentry
  cases hentry with
  | refused => exact ⟨_, rfl⟩
  | kept => exact ⟨_, rfl⟩
  | written hpasses _ hother =>
      have hcoerced := hagain.symm.trans hpasses.coerced
      cases hcoerced
      rw [hstored, Option.some_beq_some, hself] at hother
      cases hother

/-- What a field stores for a value settles.  The field takes it again and makes
nothing else of it, so that entering it into a cell that holds it changes nothing;
only a number that the bounds of the column leave out is not valid; and a text is
not longer than its column allows. -/
theorem stored_value_settles
    {b : Behavior} {ctx : FieldContext} {raw v : Json} (hcoerce : b.coerce ctx raw = .ok v) :
    let c := ctx.column
    b.coerce ctx v = .ok v ∧
    ((raw == raw) = true → ∀ (s : Store) (row : Nat),
      s.grid.column? c.fieldId = some c → s.viewer.behavior c = b → s.viewer.context c = ctx →
      s.grid.cell? ⟨row, c.fieldId⟩ = some v →
        ∃ reply, s.updateCell row c.fieldId v = s.quiet reply) ∧
    (b.isValid ctx v = false ↔ b = .number ∧ c.LeavesOut v) ∧
    (b = .text → ∃ text, v = .str text ∧
      ∀ limit, c.maxLength = some limit → text.length ≤ limit) := by
  intro c
  obtain ⟨hagain, hinvalid⟩ := Behavior.settled_of_coerce hcoerce
  refine ⟨hagain, ?_, hinvalid, ?_⟩
  · intro hraw s row hcolumn hbehavior hcontext hstored
    have hself := Behavior.beq_self_of_coerce hraw hcoerce
    have hcoerced : s.coerced? c.fieldId v = some (.ok v) := by
      rw [coerced?, hcolumn, Option.map_some, hbehavior, hcontext, hagain]
    exact updateCell_of_stored hstored hself hcoerced
  · rintro rfl
    obtain rfl := Behavior.stored_text hcoerce
    exact ⟨_, rfl, fun limit hlimit => Column.length_limited hlimit _⟩

/-- A code that is entered into the cell that holds it, and a number above the
bounds of its column. -/
theorem stored_value_settles_in_sample :
    let first := (ofSchema .builtin .sample).step (.updateCell 0 "code" (.str "x"))
    let ctx : FieldContext :=
      { column := { Column.plain "n" "N" "number" with validation := some { max := some 10.0 } } }
    Behavior.text.coerce { column := .plain "code" "code" "text" } (.str "x") = .ok (.str "x") ∧
      first.store.grid.cell? ⟨0, "code"⟩ = some (.str "x") ∧
      (∃ reply, first.store.updateCell 0 "code" (.str "x") = first.store.quiet reply) ∧
      Behavior.number.coerce ctx (.int 12) = .ok (.int 12) ∧
      Behavior.number.isValid ctx (.int 12) = false := by
  intro first ctx
  have htext : Behavior.text.coerce { column := .plain "code" "code" "text" } (.str "x") =
      .ok (.str "x") := rfl
  have hnumber : Behavior.number.coerce ctx (.int 12) = .ok (.int 12) := rfl
  obtain ⟨-, hsame, -⟩ := stored_value_settles htext
  obtain ⟨-, -, hinvalid, -⟩ := stored_value_settles hnumber
  refine ⟨htext, rfl, hsame rfl first.store 0 rfl rfl rfl rfl, hnumber, ?_⟩
  exact hinvalid.2 ⟨rfl, _, rfl, _, rfl, rfl⟩

end Store
end RecordGrid
