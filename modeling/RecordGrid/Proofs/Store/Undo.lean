import RecordGrid.Proofs.Grid.Edits
import RecordGrid.Proofs.History
import RecordGrid.Proofs.Json.Equality
import RecordGrid.Proofs.Store.Reachable
import RecordGrid.Proofs.View.Derived

/-!
# Undo and redo

The history of a store always has room for what undo and redo move, and the
expressions and the header always belong to the columns.  So whatever undo
takes back, redo makes again, and nothing of a store shows that it was gone.
-/

namespace RecordGrid
namespace Store

variable {s next : Store}

/-! ## The parts of a store fit together -/

/-- The expressions and the header belong to the columns, and the history has
room. -/
structure Coherent (s : Store) : Prop where
  expressions : s.expressions = Expressions.forColumns s.grid.columns
  header : s.header = HeaderLayout.ofColumns s.schema.headerStructure s.grid.columns
  history : s.history.Fits

theorem Coherent.blank (registry : Registry) : (blank registry).Coherent :=
  ⟨rfl, rfl, History.fits_empty⟩

theorem Coherent.install (hs : s.Coherent) (schema : Schema) : (s.install schema).Coherent where
  expressions := by
    have hrefresh := Expressions.refresh_forColumns s.grid.columns schema.columns
    rw [← hs.expressions] at hrefresh
    exact hrefresh
  header := rfl
  history := hs.history.clear

theorem Coherent.ofSchema (registry : Registry) (schema : Schema) :
    (ofSchema registry schema).Coherent :=
  (Coherent.blank registry).install schema

/-- A change that leaves the columns alone. -/
theorem Coherent.sameColumns
    (hs : s.Coherent) (hcolumns : next.grid.columns = s.grid.columns)
    (hschema : next.schema = s.schema) (hexpressions : next.expressions = s.expressions)
    (hheader : next.header = s.header) (hhistory : next.history.Fits) :
    next.Coherent where
  expressions := by rw [hexpressions, hs.expressions, hcolumns]
  header := by rw [hheader, hs.header, hcolumns, hschema]
  history := hhistory

theorem Coherent.edit (hs : s.Coherent) (e : StructuralEdit) :
    (s.step (.edit e)).store.Coherent := by
  simp only [step]
  cases hchange : (e.apply s.policy s.grid).change.isNone with
  | true =>
      rw [s.commit_of_refused hchange]
      exact hs
  | false =>
      obtain ⟨-, hnext⟩ := s.commit_of_changed hchange e.description
      have hexpressions := hnext.expressions
      have hheader := hnext.header
      have hhistory : (s.commit e.description (e.apply s.policy s.grid)).store.history.Fits := by
        rw [hnext.history]
        exact hs.history.record e.description s.grid
      rw [StructuralEdit.change_of_committed hchange] at hexpressions hheader
      cases hcolumns : e.mark.columns with
      | true =>
          simp only [hcolumns, if_true] at hexpressions hheader
          rw [hs.expressions, Expressions.refresh_forColumns] at hexpressions
          refine ⟨?_, ?_, hhistory⟩
          · rw [hexpressions, hnext.grid]
          · rw [hheader, hnext.grid, hnext.schema]
      | false =>
          simp only [hcolumns, Bool.false_eq_true, if_false] at hexpressions hheader
          refine hs.sameColumns ?_ hnext.schema hexpressions hheader hhistory
          rw [hnext.grid, StructuralEdit.columns_apply hcolumns]

theorem Coherent.restore
    (hs : s.Coherent) (g : Grid) {history : History Grid} (hhistory : history.Fits) :
    (s.restore g history).store.Coherent := by
  have hnext := restored_restore g history s
  have hexpressions := hnext.expressions
  have hheader := hnext.header
  have hfits : (s.restore g history).store.history.Fits := by
    rw [hnext.history]
    exact hhistory
  cases hsame : g.columns == s.grid.columns with
  | true =>
      simp only [bne, hsame, Bool.not_true, Bool.false_eq_true, if_false] at hexpressions hheader
      refine ⟨?_, ?_, hfits⟩
      · rw [hexpressions, hs.expressions, hnext.grid, Expressions.forColumns_eq_of_beq hsame]
      · rw [hheader, hs.header, hnext.grid, hnext.schema, HeaderLayout.ofColumns_eq_of_beq _ hsame]
  | false =>
      simp only [bne, hsame, Bool.not_false, if_true] at hexpressions hheader
      rw [hs.expressions, Expressions.refresh_forColumns] at hexpressions
      refine ⟨?_, ?_, hfits⟩
      · rw [hexpressions, hnext.grid]
      · rw [hheader, hnext.grid, hnext.schema]

theorem Coherent.applyLookup (hs : s.Coherent) (t : Ticket) (value : Json) :
    (s.applyLookup t value).store.Coherent := by
  rcases s.applyLookup_cases t value with hlate | hmissing | hwritten
  · rw [hlate]
    exact hs
  · rw [hmissing]
    exact hs.sameColumns rfl rfl rfl rfl hs.history
  · rw [hwritten]
    exact hs.sameColumns rfl rfl rfl rfl hs.history

theorem Coherent.step (hs : s.Coherent) (op : Operation) : (s.step op).store.Coherent := by
  cases op with
  | loadSchema schema => exact hs.install schema
  | supplyRows rows => exact hs.sameColumns rfl rfl rfl rfl hs.history.clear
  | supplyOptions options => exact hs.sameColumns rfl rfl rfl rfl hs.history
  | setRole role => exact hs.sameColumns rfl rfl rfl rfl hs.history
  | updateCell row fieldId raw =>
      simp only [Store.step]
      rcases s.updateCell_cases row fieldId raw with
        ⟨e, hquiet⟩ | ⟨value, -, hquiet⟩ | ⟨value, -, -, hwrite⟩
      · rw [hquiet]
        exact hs
      · rw [hquiet]
        exact hs
      · rw [hwrite, write_eq]
        exact hs.sameColumns rfl rfl rfl rfl (hs.history.record _ _)
  | applyLookup t value => exact hs.applyLookup t value
  | answerLookup t body =>
      simp only [Store.step, answerLookup]
      split
      · exact hs.applyLookup t _
      · exact hs.sameColumns rfl rfl rfl rfl hs.history
  | abandonLookup t => exact hs.sameColumns rfl rfl rfl rfl hs.history
  | edit e => exact hs.edit e
  | toggleRow index =>
      cases hnext : s.grid.toggleRow index with
      | none => simpa only [Store.step, select, hnext, quiet_store] using hs
      | some g =>
          obtain ⟨-, rfl⟩ := Grid.of_toggleRow hnext
          simp only [Store.step, select, hnext]
          exact hs.sameColumns rfl rfl rfl rfl hs.history
  | toggleColumn fieldId =>
      cases hnext : s.grid.toggleColumn fieldId with
      | none => simpa only [Store.step, select, hnext, quiet_store] using hs
      | some g =>
          obtain ⟨-, rfl⟩ := Grid.of_toggleColumn hnext
          simp only [Store.step, select, hnext]
          exact hs.sameColumns rfl rfl rfl rfl hs.history
  | clearSelection => exact hs.sameColumns rfl rfl rfl rfl hs.history
  | setPage page => exact hs.sameColumns rfl rfl rfl rfl hs.history
  | nextPage => exact hs.sameColumns rfl rfl rfl rfl hs.history
  | previousPage => exact hs.sameColumns rfl rfl rfl rfl hs.history
  | undo =>
      cases hundo : s.history.undo s.grid with
      | none => simpa only [Store.step, travel, hundo, quiet_store] using hs
      | some target =>
          simp only [Store.step, travel, hundo]
          exact hs.restore target.1 (hs.history.undo hundo)
  | redo =>
      cases hredo : s.history.redo s.grid with
      | none => simpa only [Store.step, travel, hredo, quiet_store] using hs
      | some target =>
          simp only [Store.step, travel, hredo]
          exact hs.restore target.1 (hs.history.redo hredo)

theorem Reachable.coherent {admits : Schema → Prop} (hs : Reachable admits s) : s.Coherent := by
  induction hs with
  | start registry hschema => exact Coherent.ofSchema registry _
  | step _ _ ih => exact ih.step _

/-! ## Going back and forth -/

variable {g : Grid} {history : History Grid}

theorem travel_some (s : Store) (g : Grid) (history : History Grid) :
    (s.travel (some (g, history))).reply = .flag true ∧
      s.Restored g history (s.travel (some (g, history))).store :=
  ⟨rfl, restored_restore g history s⟩

theorem step_undo (hundo : s.history.undo s.grid = some (g, history)) :
    (s.step .undo).reply = .flag true ∧ s.Restored g history (s.step .undo).store := by
  simp only [step, hundo]
  exact s.travel_some g history

theorem step_redo (hredo : s.history.redo s.grid = some (g, history)) :
    (s.step .redo).reply = .flag true ∧ s.Restored g history (s.step .redo).store := by
  simp only [step, hredo]
  exact s.travel_some g history

/-- Redo leads from wherever undo leads to, back to where undo came from. -/
theorem step_redo_of_undo
    (hs : s.Coherent) (hundo : s.history.undo s.grid = some (g, history))
    (hgrid : next.grid = g) (hhistory : next.history = history) :
    (next.step .redo).reply = .flag true ∧
      next.Restored s.grid s.history (next.step .redo).store := by
  have hback := hs.history.redo_undo hundo
  rw [← hgrid, ← hhistory] at hback
  exact step_redo hback

/-- The operation has changed what undo takes back: it is an edit of the
structure that was made, or an edit of a cell that changed the cell. -/
def Commits (s : Store) (op : Operation) : Prop :=
  match op with
  | .edit _ => (s.step op).reply = .flag true
  | .updateCell row fieldId _ =>
      (∃ requests, (s.step op).reply = .requests (.ok requests)) ∧
        (s.grid.cell? ⟨row, fieldId⟩ ==
          (s.step op).store.grid.cell? ⟨row, fieldId⟩) = false
  | _ => False

theorem history_of_commits {op : Operation} (hop : s.Commits op) :
    ∃ description, (s.step op).store.history = s.history.record description s.grid := by
  cases op with
  | edit e =>
      simp only [Commits, step] at hop ⊢
      cases hchange : (e.apply s.policy s.grid).change.isNone with
      | true =>
          rw [s.commit_of_refused hchange] at hop
          cases hop
      | false => exact ⟨_, (s.commit_of_changed hchange e.description).2.history⟩
  | updateCell row fieldId raw =>
      obtain ⟨⟨requests, hreply⟩, hchanged⟩ := hop
      simp only [step] at hreply hchanged ⊢
      rcases s.updateCell_cases row fieldId raw with
        ⟨e, hquiet⟩ | ⟨value, hsame, hquiet⟩ | ⟨value, -, -, hwrite⟩
      · rw [hquiet] at hreply
        cases hreply
      · rw [hquiet, quiet_store, Json.option_beq_self_of_beq hsame] at hchanged
        cases hchanged
      · rw [hwrite, write_eq]
        exact ⟨_, rfl⟩
  | _ => cases hop

theorem undo_of_commits {op : Operation} (hs : s.Coherent) (hop : s.Commits op) :
    ∃ history,
      (s.step op).store.history.undo (s.step op).store.grid = some (s.grid, history) := by
  obtain ⟨description, hrecorded⟩ := history_of_commits hop
  rw [hrecorded]
  exact ⟨_, s.history.undo_record description s.grid _ hs.history.positive⟩

/-- The stores show the same and can go back and forth alike. -/
structure Alike (s next : Store) : Prop where
  schema : next.schema = s.schema
  grid : next.grid = s.grid
  history : next.history = s.history

theorem Alike.expressions (hnext : s.Alike next) (hs : s.Coherent) (hc : next.Coherent) :
    next.expressions = s.expressions := by
  rw [hs.expressions, hc.expressions, hnext.grid]

theorem Alike.header (hnext : s.Alike next) (hs : s.Coherent) (hc : next.Coherent) :
    next.header = s.header := by
  rw [hs.header, hc.header, hnext.grid, hnext.schema]

theorem Coherent.run (hs : s.Coherent) (ops : List Operation) : (s.run ops).Coherent := by
  induction ops generalizing s with
  | nil => exact hs
  | cons op rest ih => exact ih (hs.step op)

theorem run_append (s : Store) (first second : List Operation) :
    s.run (first ++ second) = (s.run first).run second :=
  List.foldl_append

/-- As many redos as undos, for as many as there is something to undo. -/
def backAndForth (k : Nat) : List Operation :=
  List.replicate k .undo ++ List.replicate k .redo

theorem run_backAndForth_succ (s : Store) (k : Nat) :
    s.run (backAndForth (k + 1)) =
      (((s.step .undo).store.run (backAndForth k)).step .redo).store := by
  have hsplit : backAndForth (k + 1) = .undo :: backAndForth k ++ [.redo] := by
    simp only [backAndForth, List.replicate_succ, List.cons_append, List.append_assoc,
      ← List.replicate_succ']
  rw [hsplit, run_append]
  rfl

theorem alike_backAndForth
    (hs : s.Coherent) {k : Nat} (hk : k ≤ s.history.undoStack.length) :
    s.Alike (s.run (backAndForth k)) := by
  induction k generalizing s with
  | zero => exact ⟨rfl, rfl, rfl⟩
  | succ k ih =>
      have hsome : 0 < s.history.undoStack.length := by omega
      obtain ⟨target, history, hundo, hlength⟩ := History.exists_undo hsome s.grid
      have hundone := (step_undo hundo).2
      have hmiddle := ih (hs.step .undo) (by rw [hundone.history]; omega)
      have hredone := (step_redo_of_undo hs hundo (hmiddle.grid.trans hundone.grid)
        (hmiddle.history.trans hundone.history)).2
      rw [run_backAndForth_succ]
      exact ⟨hredone.schema.trans (hmiddle.schema.trans hundone.schema), hredone.grid,
        hredone.history⟩

/-- Undo returns to the grid before an operation that has changed it, and redo
to the one after it; and as many redos as undos lead from every store back to
where it was, with the same header, expressions and history. -/
theorem undo_redo_restore {admits : Schema → Prop} (hs : Reachable admits s) :
    (∀ op, s.Commits op →
      let after := (s.step op).store
      let undone := after.step .undo
      let redone := undone.store.step .redo
      undone.reply = .flag true ∧ undone.store.grid = s.grid ∧
        redone.reply = .flag true ∧ redone.store.grid = after.grid) ∧
      ∀ k ≤ s.history.undoStack.length,
        let back := s.run (List.replicate k .undo ++ List.replicate k .redo)
        back.grid = s.grid ∧ back.header = s.header ∧ back.expressions = s.expressions ∧
          back.history = s.history := by
  have hcoherent := hs.coherent
  constructor
  · intro op hop
    obtain ⟨history, hundo⟩ := undo_of_commits hcoherent hop
    obtain ⟨hreply, hundone⟩ := step_undo hundo
    obtain ⟨hreply', hredone⟩ :=
      step_redo_of_undo (hcoherent.step op) hundo hundone.grid hundone.history
    exact ⟨hreply, hundone.grid, hreply', hredone.grid⟩
  · intro k hk
    have halike := alike_backAndForth hcoherent hk
    have hback := hcoherent.run (backAndForth k)
    exact ⟨halike.grid, halike.header hcoherent hback, halike.expressions hcoherent hback,
      halike.history⟩

/-- A store with an edit of a cell and a copied column in its history. -/
def edited : Store :=
  (ofSchema .builtin .sample).run [.updateCell 0 "code" (.str "x"), .edit .splitColumn]

theorem undo_redo_restore_edited :
    edited.history.undoStack.length = 2 ∧ edited.Commits (.edit .addRow) ∧
      (((edited.step (.edit .addRow)).store.step .undo).store.grid = edited.grid) ∧
      (edited.run [.undo, .undo, .redo, .redo]).header = edited.header := by
  have hreachable : Reachable Schema.IsRead edited := by
    refine (Reachable.start .builtin Schema.sample_isRead).run ?_
    simp [Operation.Admitted]
  have hcommits : edited.Commits (.edit .addRow) := rfl
  have hlength : edited.history.undoStack.length = 2 := rfl
  obtain ⟨hcommitted, hback⟩ := undo_redo_restore hreachable
  exact ⟨hlength, hcommits, (hcommitted _ hcommits).2.1,
    (hback 2 (Nat.le_of_eq hlength.symm)).2.1⟩

end Store
end RecordGrid
