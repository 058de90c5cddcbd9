import RecordGrid.Proofs.Store.Awaited
import RecordGrid.Proofs.Store.Deliveries
import RecordGrid.Proofs.Store.Undo

/-!
# Undo after an answer

An answer to a lookup changes the records and leaves the history alone.  The
history keeps whole grids, so an undo returns to the grid before the last edit,
and takes back with it every answer that has come in since, also those to
lookups of earlier edits.  Their tickets are given up with all others: only redo
brings the values back, together with the edit.
-/

namespace RecordGrid
namespace Store

variable {s : Store} {op : Operation} {t : Ticket} {value : Json} {answers : List Operation}

/-- The lookup that an operation answers, and the value that it brings. -/
def Operation.answer? : Operation → Option (Ticket × Json)
  | .applyLookup t value => some (t, value)
  | .answerLookup t body => body.lookupAnswer?.map fun value => (t, value)
  | _ => none

/-- Every operation of a run brings the value of a lookup, and is accepted. -/
def AnswersAccepted (s : Store) (ops : List Operation) : Prop :=
  (∀ op ∈ ops, op.answer?.isSome = true) ∧ ∀ reply ∈ s.replies ops, reply = .flag true

theorem step_of_answer (hanswer : op.answer? = some (t, value)) (s : Store) :
    s.step op = s.step (.applyLookup t value) := by
  cases op with
  | applyLookup u found =>
      cases hanswer
      rfl
  | answerLookup u body =>
      obtain ⟨found, hfound, hpair⟩ := Option.map_eq_some_iff.1 hanswer
      cases hpair
      simp only [step, answerLookup, hfound]
  | _ => cases hanswer

/-- What an accepted answer does: it uses its ticket up and writes one cell. -/
theorem store_of_accepted
    (hanswer : op.answer? = some (t, value)) (haccepted : (s.step op).reply = .flag true) :
    s.lookups.isCurrent t = true ∧ s.grid.HasCell t.target ∧
      (s.step op).store =
        { s with
          lookups := s.lookups.forget t.target
          grid := s.grid.setCell t.target.row t.target.fieldId value } := by
  rw [step_of_answer hanswer] at haccepted ⊢
  rw [reply_applyLookup, Reply.flag.injEq] at haccepted
  obtain ⟨hcurrent, hthere⟩ := accepts_iff.1 haccepted
  refine ⟨hcurrent, hthere, ?_⟩
  simp only [step, applyLookup_of_current hcurrent hthere, publish_store,
    Lookups.retire_of_current hcurrent]

theorem answersAccepted_cons :
    s.AnswersAccepted (op :: answers) ↔
      ((∃ t value, op.answer? = some (t, value)) ∧ (s.step op).reply = .flag true) ∧
        (s.step op).store.AnswersAccepted answers := by
  simp only [AnswersAccepted, replies, List.forall_mem_cons, Option.isSome_iff_exists,
    Prod.exists]
  exact and_and_and_comm

/-! ## Along a run of answers -/

theorem history_answers (hanswers : s.AnswersAccepted answers) :
    (s.run answers).history = s.history := by
  induction answers generalizing s with
  | nil => rfl
  | cons op rest ih =>
      obtain ⟨⟨⟨t, value, hanswer⟩, haccepted⟩, hrest⟩ := answersAccepted_cons.1 hanswers
      obtain ⟨-, -, hstore⟩ := store_of_accepted hanswer haccepted
      have hfirst : (s.step op).store.history = s.history := by rw [hstore]
      exact (ih hrest).trans hfirst

/-- Answers leave a cell alone that waits for none. -/
theorem cell_of_untracked
    {u : Target} (hanswers : s.AnswersAccepted answers) (hnone : s.lookups.sequence? u = none) :
    (s.run answers).grid.cell? u = s.grid.cell? u := by
  induction answers generalizing s with
  | nil => rfl
  | cons op rest ih =>
      obtain ⟨⟨⟨t, value, hanswer⟩, haccepted⟩, hrest⟩ := answersAccepted_cons.1 hanswers
      obtain ⟨hcurrent, hthere, hstore⟩ := store_of_accepted hanswer haccepted
      have hother : u ≠ t.target := by
        rintro rfl
        rw [(Lookups.isCurrent_iff.1 hcurrent).2] at hnone
        cases hnone
      have hstill : (s.step op).store.lookups.sequence? u = none := by
        simp only [hstore, Lookups.sequence?_forget, if_neg hother, hnone]
      have hfirst : (s.step op).store.grid.cell? u = s.grid.cell? u := by
        simp only [hstore, Grid.cell?_setCell t.target u value hthere.1, if_neg hother]
      exact (ih hrest hstill).trans hfirst

/-- At the end of the run every answer is in its cell: its ticket was used up,
so no later answer has gone there. -/
theorem cell_of_answered
    (hanswers : s.AnswersAccepted answers) (hmem : op ∈ answers)
    (hanswer : op.answer? = some (t, value)) :
    (s.run answers).grid.cell? t.target = some value := by
  induction answers generalizing s with
  | nil => cases hmem
  | cons first rest ih =>
      obtain ⟨⟨-, haccepted⟩, hrest⟩ := answersAccepted_cons.1 hanswers
      rcases List.mem_cons.1 hmem with rfl | hlater
      · obtain ⟨-, hthere, hstore⟩ := store_of_accepted hanswer haccepted
        have hforgotten : (s.step op).store.lookups.sequence? t.target = none := by
          simp only [hstore, Lookups.sequence?_forget, if_true]
        have hwritten : (s.step op).store.grid.cell? t.target = some value := by
          simp only [hstore, Grid.cell?_setCell t.target t.target value hthere.1, if_true]
        exact (cell_of_untracked hrest hforgotten).trans hwritten
      · exact ih hrest hlater

/-! ## Undo after an edit and answers -/

/-- After an edit of a cell, and answers that were accepted then, undo returns to
the grid before the edit.  The answers are in their cells before the undo, and
with it every one of them is taken back like the edit; no ticket counts any
longer, and redo gives back the edit together with the answers. -/
theorem undo_takes_back_later_answers
    {admits : Schema → Prop} (hs : Reachable admits s) {row : Nat} {fieldId : String} {raw : Json}
    (hedit : s.Commits (.updateCell row fieldId raw))
    (hanswers : (s.step (.updateCell row fieldId raw)).store.AnswersAccepted answers) :
    let answered := (s.step (.updateCell row fieldId raw)).store.run answers
    let undone := answered.step .undo
    let redone := undone.store.step .redo
    (∀ op ∈ answers, ∀ t value, op.answer? = some (t, value) →
        answered.grid.cell? t.target = some value) ∧
      (undone.reply = .flag true ∧ undone.store.grid = s.grid ∧
        ∀ t, undone.store.Refuses t) ∧
      (redone.reply = .flag true ∧ redone.store.grid = answered.grid) := by
  intro answered undone redone
  have hcoherent : answered.Coherent := (hs.coherent.step _).run answers
  have hundo : ∃ history, answered.history.undo answered.grid = some (s.grid, history) := by
    obtain ⟨description, hrecorded⟩ := history_of_commits hedit
    have hhistory : answered.history = s.history.record description s.grid :=
      (history_answers hanswers).trans hrecorded
    rw [hhistory]
    exact ⟨_, s.history.undo_record description s.grid _ hs.coherent.history.positive⟩
  obtain ⟨history, hundo⟩ := hundo
  obtain ⟨hreply, hundone⟩ := step_undo hundo
  obtain ⟨hreply', hredone⟩ := step_redo_of_undo hcoherent hundo hundone.grid hundone.history
  have hnone : undone.store.lookups.tracked = [] := congrArg Lookups.tracked hundone.lookups
  refine ⟨?_, ⟨hreply, hundone.grid, refuses_of_tracked_eq_nil hnone⟩, hreply', hredone.grid⟩
  intro op hmem t value hanswer
  exact cell_of_answered hanswers hmem hanswer

/-- An edit of a record that starts a lookup, and a second record. -/
def asking : List Operation := [.updateCell 0 "code" (.str "x"), .edit .addRow]

def looking : Store := (ofSchema .builtin .sample).run asking

theorem reachable_looking : Reachable Schema.IsRead looking := by
  refine (Reachable.start .builtin Schema.sample_isRead).run ?_
  simp [asking, Operation.Admitted]

/-- The answer for the first record counts after an edit of the second. -/
theorem looking_answered :
    (looking.step (.updateCell 1 "code" (.str "y"))).store.AnswersAccepted
      [.applyLookup ⟨⟨0, "name"⟩, 1, 1⟩ (.str "X")] :=
  answersAccepted_cons.2 ⟨⟨⟨_, _, rfl⟩, rfl⟩, by simp [AnswersAccepted, replies]⟩

theorem undo_takes_back_later_answers_in_sample :
    let t : Ticket := ⟨⟨0, "name"⟩, 1, 1⟩
    let edited := (looking.step (.updateCell 1 "code" (.str "y"))).store
    let answered := edited.run [.applyLookup t (.str "X")]
    let undone := (answered.step .undo).store
    looking.Commits (.updateCell 1 "code" (.str "y")) ∧
      edited.AnswersAccepted [.applyLookup t (.str "X")] ∧
      answered.grid.cell? t.target = some (.str "X") ∧
      undone.grid = looking.grid ∧ undone.Refuses t ∧
      (undone.step .redo).store.grid = answered.grid := by
  intro t edited answered undone
  have hedit : looking.Commits (.updateCell 1 "code" (.str "y")) := ⟨⟨_, rfl⟩, rfl⟩
  obtain ⟨hcells, ⟨-, hgrid, hrefuses⟩, -, hredone⟩ :=
    undo_takes_back_later_answers reachable_looking hedit looking_answered
  have hcell : answered.grid.cell? t.target = some (.str "X") :=
    hcells _ (List.mem_cons_self ..) t _ rfl
  exact ⟨hedit, looking_answered, hcell, hgrid, hrefuses t, hredone⟩

/-- The ticket was issued before the edit that is taken back and is for another
cell, and the edit that issued it stays; its answer is gone all the same. -/
theorem undo_discards_answer_of_earlier_edit :
    let t : Ticket := ⟨⟨0, "name"⟩, 1, 1⟩
    let edited := (looking.step (.updateCell 1 "code" (.str "y"))).store
    let answered := edited.run [.applyLookup t (.str "X")]
    let undone := answered.step .undo
    Reachable Schema.IsRead looking ∧ t ∈ (ofSchema .builtin .sample).issued asking ∧
      looking.Commits (.updateCell 1 "code" (.str "y")) ∧ t.target ≠ ⟨1, "code"⟩ ∧
      edited.AnswersAccepted [.applyLookup t (.str "X")] ∧
      answered.grid.cell? t.target = some (.str "X") ∧
      undone.reply = .flag true ∧ undone.store.grid.cell? ⟨0, "code"⟩ = some (.str "x") ∧
      undone.store.grid.cell? t.target ≠ some (.str "X") := by
  intro t edited answered undone
  have hissued : (ofSchema .builtin .sample).issued asking = [t] := rfl
  have hcell : answered.grid.cell? t.target = some (.str "X") :=
    cell_of_answered looking_answered (List.mem_cons_self ..) rfl
  have hgone : undone.store.grid.cell? t.target = none := rfl
  refine ⟨reachable_looking, ?_, ⟨⟨_, rfl⟩, rfl⟩, by decide, looking_answered, hcell, rfl, rfl, ?_⟩
  · rw [hissued]
    exact List.mem_singleton_self t
  · rw [hgone]
    exact nofun

end Store
end RecordGrid
