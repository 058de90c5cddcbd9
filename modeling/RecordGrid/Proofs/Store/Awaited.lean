import RecordGrid.Proofs.Store.Issued

/-!
# What waits for an answer

A cell that waits for an answer is a cell of the grid, so an answer that counts
finds its record and its column.  No cell waits while there is something to
redo: undo and redo give up all lookups, and the edits that start a lookup leave
nothing to redo.  An answer never comes between an undo and its redo.
-/

namespace RecordGrid

theorem Lookups.Loses.tracked_eq_nil
    {l next : Lookups} (hnext : l.Loses next) (hnone : l.tracked = []) :
    next.tracked = [] := by
  cases hnext with
  | nothing => exact hnone
  | one t =>
      unfold retire
      split
      · simp [forget, hnone]
      · exact hnone
  | all => rfl
  | columns keep => simp [retain, hnone]

namespace Store

variable {s : Store}

/-- There is nothing to redo, or no cell waits for an answer. -/
def RedoOrWait (s : Store) : Prop := s.history.redoStack = [] ∨ s.lookups.tracked = []

theorem history_applyLookup (s : Store) (t : Ticket) (value : Json) :
    (s.applyLookup t value).store.history = s.history := by
  rcases s.applyLookup_cases t value with hlate | hmissing | hwritten
  · rw [hlate, quiet_store]
  · rw [hmissing, quiet_store]
  · rw [hwritten, publish_store]

theorem history_answerLookup (s : Store) (t : Ticket) (body : Json) :
    (s.answerLookup t body).store.history = s.history := by
  unfold answerLookup
  split
  · exact s.history_applyLookup t _
  · rfl

theorem history_select (s : Store) (g : Option Grid) :
    (s.select g).store.history = s.history := by
  cases g <;> rfl

theorem travel_cases (s : Store) (target : Option (Grid × History Grid)) :
    (s.travel target).store.lookups.tracked = [] ∨
      (s.travel target).store.history = s.history ∧
        s.lookups.Loses (s.travel target).store.lookups := by
  cases target with
  | none => exact .inr ⟨rfl, .nothing⟩
  | some target =>
      have hlookups := (restored_restore target.1 target.2 s).lookups
      exact .inl (congrArg Lookups.tracked hlookups)

/-- A step leaves nothing to redo, or nothing that waits; or it leaves the
history alone, and no more cells wait than before. -/
theorem redoOrWait_cases (s : Store) (op : Operation) :
    (s.step op).store.history.redoStack = [] ∨
      (s.step op).store.lookups.tracked = [] ∨
      (s.step op).store.history = s.history ∧ s.lookups.Loses (s.step op).store.lookups := by
  cases op with
  | loadSchema schema => exact .inl rfl
  | supplyRows rows => exact .inl rfl
  | supplyOptions options => exact .inr (.inr ⟨rfl, .nothing⟩)
  | setRole role => exact .inr (.inr ⟨rfl, .nothing⟩)
  | updateCell row fieldId raw =>
      simp only [step]
      rcases s.updateCell_cases row fieldId raw with
        ⟨e, hquiet⟩ | ⟨value, -, hquiet⟩ | ⟨value, -, -, hwrite⟩
      · rw [hquiet]
        exact .inr (.inr ⟨rfl, .nothing⟩)
      · rw [hquiet]
        exact .inr (.inr ⟨rfl, .nothing⟩)
      · rw [hwrite, write_eq]
        exact .inl rfl
  | applyLookup t value =>
      have hloses := (s.handsOutNone_applyLookup t value).loses
      exact .inr (.inr ⟨s.history_applyLookup t value, hloses⟩)
  | answerLookup t body =>
      have hloses := (s.handsOutNone_answerLookup t body).loses
      exact .inr (.inr ⟨s.history_answerLookup t body, hloses⟩)
  | abandonLookup t => exact .inr (.inr ⟨rfl, .one t⟩)
  | edit e =>
      simp only [step]
      cases hchange : (e.apply s.policy s.grid).change.isNone with
      | true =>
          rw [s.commit_of_refused hchange]
          exact .inr (.inr ⟨rfl, .nothing⟩)
      | false =>
          have hhistory := (s.commit_of_changed hchange e.description).2.history
          rw [hhistory]
          exact .inl rfl
  | toggleRow index =>
      exact .inr (.inr ⟨s.history_select _, (s.handsOutNone_select _).loses⟩)
  | toggleColumn fieldId =>
      exact .inr (.inr ⟨s.history_select _, (s.handsOutNone_select _).loses⟩)
  | clearSelection => exact .inr (.inr ⟨rfl, .nothing⟩)
  | setPage page => exact .inr (.inr ⟨rfl, .nothing⟩)
  | nextPage => exact .inr (.inr ⟨rfl, .nothing⟩)
  | previousPage => exact .inr (.inr ⟨rfl, .nothing⟩)
  | undo => exact .inr (s.travel_cases _)
  | redo => exact .inr (s.travel_cases _)

theorem RedoOrWait.step (hs : s.RedoOrWait) (op : Operation) :
    (s.step op).store.RedoOrWait := by
  rcases s.redoOrWait_cases op with hredo | hwait | ⟨hhistory, hloses⟩
  · exact .inl hredo
  · exact .inr hwait
  · rcases hs with hredo | hwait
    · left
      rw [hhistory]
      exact hredo
    · exact .inr (hloses.tracked_eq_nil hwait)

theorem RedoOrWait.run (hs : s.RedoOrWait) (ops : List Operation) :
    (s.run ops).RedoOrWait := by
  induction ops generalizing s with
  | nil => exact hs
  | cons op rest ih => exact ih (hs.step op)

theorem refuses_of_tracked_eq_nil (hnone : s.lookups.tracked = []) (t : Ticket) :
    s.Refuses t := by
  have hsequence : s.lookups.sequence? t.target = none := by
    rw [Lookups.sequence?, hnone, List.lookup_nil]
  have hcurrent : s.lookups.isCurrent t = false := by
    simp [Lookups.isCurrent, hsequence]
  exact refuses_of_not_current hcurrent

/-- Whatever has been done to a store, a cell that waits for an answer is one of
a record and a column that are there, so an answer that counts is always
written.  While there is something to redo no lookup is pending, and every
answer is refused. -/
theorem waiting_cells_exist_unless_redo
    (registry : Registry) (schema : Schema) (ops : List Operation) :
    let s := (ofSchema registry schema).run ops
    (∀ cell, s.lookups.isTracked cell = true →
        cell.row < s.grid.rowCount ∧ s.grid.hasColumn cell.fieldId = true) ∧
      (∀ t value, s.lookups.isCurrent t = true →
        let answered := s.step (.applyLookup t value)
        answered.reply = .flag true ∧
          s.grid.WrittenAt answered.store.grid t.target value) ∧
      (s.history.canRedo = true → s.lookups.pending = 0 ∧ ∀ t, s.Refuses t) := by
  intro s
  have hanchored : s.Anchored := anchored_run registry schema ops
  refine ⟨?_, ?_, ?_⟩
  · intro cell htracked
    obtain ⟨sequence, hsequence⟩ := Option.isSome_iff_exists.1 htracked
    exact hanchored cell sequence hsequence
  · intro t value hcurrent
    have hthere : s.grid.HasCell t.target :=
      hanchored _ _ (Lookups.isCurrent_iff.1 hcurrent).2
    simp only [step, applyLookup_of_current hcurrent hthere, publish_reply, publish_store,
      true_and]
    exact Grid.writtenAt_setCell t.target value hthere.1
  · intro hredo
    have hstart : (ofSchema registry schema).RedoOrWait := .inl rfl
    have hnone : s.lookups.tracked = [] := by
      rcases hstart.run ops with hempty | hnone
      · have hcannot : s.history.canRedo = false := by
          simp only [History.canRedo, s, hempty, List.isEmpty_nil, Bool.not_true]
        rw [hcannot] at hredo
        cases hredo
      · exact hnone
    refine ⟨?_, refuses_of_tracked_eq_nil hnone⟩
    rw [Lookups.pending, hnone, List.length_nil]

/-- A lookup that is under way after an edit, and given up when the edit is
undone. -/
theorem waiting_cells_exist_unless_redo_in_sample :
    let t : Ticket := ⟨⟨0, "name"⟩, 1, 1⟩
    let asked : List Operation := [.updateCell 0 "code" (.str "x")]
    let waiting := (ofSchema .builtin .sample).run asked
    let undone := (ofSchema .builtin .sample).run (asked ++ [.undo])
    waiting.lookups.isTracked t.target = true ∧
      (t.target.row < waiting.grid.rowCount ∧
        waiting.grid.hasColumn t.target.fieldId = true) ∧
      waiting.lookups.isCurrent t = true ∧
      (waiting.step (.applyLookup t (.str "X"))).reply = .flag true ∧
      undone.history.canRedo = true ∧
      undone.lookups.pending = 0 ∧ undone.Refuses t := by
  intro t asked waiting undone
  have htracked : waiting.lookups.isTracked t.target = true := rfl
  have hcurrent : waiting.lookups.isCurrent t = true := rfl
  have hredo : undone.history.canRedo = true := rfl
  obtain ⟨hcells, hanswers, -⟩ := waiting_cells_exist_unless_redo .builtin .sample asked
  obtain ⟨-, -, hundone⟩ := waiting_cells_exist_unless_redo .builtin .sample (asked ++ [.undo])
  obtain ⟨hnone, hrefuses⟩ := hundone hredo
  exact ⟨htracked, hcells _ htracked, hcurrent, (hanswers t (.str "X") hcurrent).1, hredo, hnone,
    hrefuses t⟩

end Store
end RecordGrid
