import RecordGrid.Proofs.Store.Tickets

/-!
# What listeners are told

A step either publishes the records it leaves, once, or leaves the records as
they were.  So whoever keeps a copy of the records, and replaces it by what is
published, always has those of the store.  What publishes nothing includes all
that is reported as no change.
-/

namespace RecordGrid
namespace Store

variable {s : Store} {op : Operation}

/-- A copy of the records, replaced whenever records are published. -/
def follow (copy : List Row) (published : List (List Row)) : List Row :=
  published.foldl (fun _ rows => rows) copy

/-- The reply to the operation is an error or a refusal, or it accepts an edit
that leaves its cell as it was. -/
def ReportsNoChange (s : Store) (op : Operation) : Prop :=
  (∃ e, (s.step op).reply = .requests (.error e)) ∨
    (s.step op).reply = .flag false ∨
    ∃ row fieldId raw requests,
      op = .updateCell row fieldId raw ∧
      (s.step op).reply = .requests (.ok requests) ∧
      (s.grid.cell? ⟨row, fieldId⟩ == (s.step op).store.grid.cell? ⟨row, fieldId⟩) = true

theorem reportsChange_of_made
    (hreply : (s.step op).reply = .done ∨ (s.step op).reply = .flag true) :
    ¬s.ReportsNoChange op := by
  rintro (⟨e, hno⟩ | hno | ⟨row, fieldId, raw, requests, -, hno, -⟩)
  all_goals
    rw [hno] at hreply
    rcases hreply with hreply | hreply <;> cases hreply

theorem reportsChange_of_write
    {row : Nat} {fieldId : String} {raw value : Json}
    (hother : (s.grid.cell? ⟨row, fieldId⟩ == some value) = false)
    (hthere : s.grid.HasCell ⟨row, fieldId⟩)
    (hwrite : s.step (.updateCell row fieldId raw) = s.write row fieldId value) :
    ¬s.ReportsNoChange (.updateCell row fieldId raw) := by
  unfold ReportsNoChange
  rw [hwrite, write_eq]
  rintro (⟨e, herror⟩ | hrefused | ⟨row', fieldId', raw', requests, hop, -, hsame⟩)
  · cases herror
  · cases hrefused
  · cases hop
    have hwritten := (Grid.writtenAt_setCell ⟨row, fieldId⟩ value hthere.1).written
    simp only [publish_store] at hsame
    rw [hwritten, hother] at hsame
    cases hsame

/-- What a step that answers an operation tells whoever listens. -/
def Informs (s : Store) (op : Operation) (r : Step) : Prop :=
  r.published = [] ∧ r.store.grid.rows = s.grid.rows ∨
    r.published = [r.store.grid.rows] ∧ ¬s.ReportsNoChange op

theorem informs_quiet
    (next : Store) (op : Operation) (reply : Reply) (hrows : next.grid.rows = s.grid.rows) :
    s.Informs op (next.quiet reply) :=
  .inl ⟨rfl, hrows⟩

theorem informs_publish
    {next : Store} {reply : Reply} (hchange : ¬s.ReportsNoChange op) :
    s.Informs op (next.publish reply) :=
  .inr ⟨rfl, hchange⟩

theorem informs_updateCell (s : Store) (row : Nat) (fieldId : String) (raw : Json) :
    s.Informs (.updateCell row fieldId raw) (s.updateCell row fieldId raw) := by
  rcases s.updateCell_cases row fieldId raw with
    ⟨e, hquiet⟩ | ⟨value, -, hquiet⟩ | ⟨value, hother, hthere, hwrite⟩
  · rw [hquiet]
    exact informs_quiet _ _ _ rfl
  · rw [hquiet]
    exact informs_quiet _ _ _ rfl
  · rw [hwrite, write_eq]
    exact informs_publish (reportsChange_of_write hother hthere hwrite)

/-- An answer informs in the same way, whichever operation brings it. -/
theorem informs_applyLookup
    (s : Store) (t : Ticket) (value : Json) {op : Operation}
    (hop : s.step op = s.applyLookup t value) :
    s.Informs op (s.applyLookup t value) := by
  rcases s.applyLookup_cases t value with hlate | hmissing | hwritten
  · rw [hlate]
    exact informs_quiet _ _ _ rfl
  · rw [hmissing]
    exact informs_quiet _ _ _ rfl
  · rw [hwritten] at hop ⊢
    have hreply : (s.step op).reply = .flag true := congrArg Step.reply hop
    exact informs_publish (reportsChange_of_made (.inr hreply))

theorem informs_answerLookup (s : Store) (t : Ticket) (body : Json) :
    s.Informs (.answerLookup t body) (s.answerLookup t body) := by
  cases hanswer : body.lookupAnswer? with
  | none =>
      simp only [answerLookup, hanswer]
      exact informs_quiet _ _ _ rfl
  | some value =>
      have hstep : s.step (.answerLookup t body) = s.applyLookup t value := by
        simp only [step, answerLookup, hanswer]
      simp only [answerLookup, hanswer]
      exact s.informs_applyLookup t value hstep

theorem informs_edit (s : Store) (e : StructuralEdit) :
    s.Informs (.edit e) (s.step (.edit e)) := by
  have hreply := s.reply_edit e
  simp only [step]
  cases hchange : (e.apply s.policy s.grid).change.isNone with
  | true =>
      rw [s.commit_of_refused hchange]
      exact informs_quiet _ _ _ rfl
  | false =>
      rw [hchange] at hreply
      have hrows : (e.apply s.policy s.grid).change.rows = true := by
        rw [StructuralEdit.change_of_committed hchange]
        cases e <;> rfl
      simp only [commit, hchange, hrows, Bool.false_eq_true, if_false, if_true]
      exact informs_publish (reportsChange_of_made (.inr hreply))

theorem informs_select
    {g : Option Grid} (hrows : ∀ selected, g = some selected → selected.rows = s.grid.rows)
    (op : Operation) :
    s.Informs op (s.select g) := by
  cases g with
  | none => exact informs_quiet _ _ _ rfl
  | some selected => exact informs_quiet _ _ _ (hrows selected rfl)

theorem informs_travel
    (target : Option (Grid × History Grid)) (hop : s.step op = s.travel target) :
    s.Informs op (s.travel target) := by
  cases target with
  | none => exact informs_quiet _ _ _ rfl
  | some target =>
      have hreply : (s.step op).reply = .flag true := congrArg Step.reply hop
      exact informs_publish (reportsChange_of_made (.inr hreply))

theorem informs_step (s : Store) (op : Operation) : s.Informs op (s.step op) := by
  cases op with
  | loadSchema schema => exact informs_publish (reportsChange_of_made (.inl rfl))
  | supplyRows rows => exact informs_publish (reportsChange_of_made (.inl rfl))
  | supplyOptions options => exact informs_quiet _ _ _ rfl
  | setRole role => exact informs_quiet _ _ _ rfl
  | updateCell row fieldId raw => exact s.informs_updateCell row fieldId raw
  | applyLookup t value => exact s.informs_applyLookup t value rfl
  | answerLookup t body => exact s.informs_answerLookup t body
  | abandonLookup t => exact informs_quiet _ _ _ rfl
  | edit e => exact s.informs_edit e
  | toggleRow index =>
      refine informs_select ?_ _
      intro selected hselected
      obtain ⟨-, rfl⟩ := Grid.of_toggleRow hselected
      rfl
  | toggleColumn fieldId =>
      refine informs_select ?_ _
      intro selected hselected
      obtain ⟨-, rfl⟩ := Grid.of_toggleColumn hselected
      rfl
  | clearSelection => exact informs_quiet _ _ _ rfl
  | setPage page => exact informs_quiet _ _ _ rfl
  | nextPage => exact informs_quiet _ _ _ rfl
  | previousPage => exact informs_quiet _ _ _ rfl
  | undo => exact informs_travel _ rfl
  | redo => exact informs_travel _ rfl

theorem follow_step (s : Store) (op : Operation) (later : List (List Row)) :
    follow s.grid.rows ((s.step op).published ++ later) =
      follow (s.step op).store.grid.rows later := by
  rcases s.informs_step op with ⟨hnone, hrows⟩ | ⟨honce, -⟩
  · rw [hnone, hrows, List.nil_append]
  · rw [honce]
    rfl

theorem follow_run (s : Store) (ops : List Operation) :
    follow s.grid.rows (s.published ops) = (s.run ops).grid.rows := by
  induction ops generalizing s with
  | nil => rfl
  | cons op rest ih =>
      rw [published, follow_step]
      exact ih (s.step op).store

/-- Whoever listens from a store on has its records after every run, is told at
most once of every operation that follows, and of none that reports no
change. -/
theorem listener_follows_records (s : Store) (ops : List Operation) :
    follow s.grid.rows (s.published ops) = (s.run ops).grid.rows ∧
      ∀ op,
        ((s.run ops).step op).published.length ≤ 1 ∧
        ((s.run ops).ReportsNoChange op → ((s.run ops).step op).published = []) := by
  refine ⟨s.follow_run ops, fun op => ?_⟩
  rcases (s.run ops).informs_step op with ⟨hnone, -⟩ | ⟨honce, hchange⟩
  · rw [hnone]
    exact ⟨Nat.zero_le 1, fun _ => rfl⟩
  · rw [honce]
    exact ⟨Nat.le_refl 1, fun hno => absurd hno hchange⟩

end Store
end RecordGrid
