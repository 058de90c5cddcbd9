import RecordGrid.Proofs.Lookup.Awaited
import RecordGrid.Proofs.Store.Tickets

/-!
# The tickets of a run

An edit of a cell hands out tickets, and no other operation does.  Along a run
they are all different, and each of them is known to the store that the run
leads to, whether or not its answer still counts there.
-/

namespace RecordGrid
namespace Store

variable {s : Store} {t : Ticket} {ops : List Operation}

def Reply.tickets : Reply → List Ticket
  | .requests (.ok started) => started.map (·.ticket)
  | _ => []

/-- The tickets that the operations of a run hand out, in their order. -/
def issued : List Operation → Store → List Ticket
  | [], _ => []
  | op :: rest, s => (s.step op).reply.tickets ++ issued rest (s.step op).store

/-- Whether the answer for a ticket would be written. -/
def accepts (s : Store) (t : Ticket) : Bool :=
  s.lookups.isCurrent t && decide (t.target.row < s.grid.rowCount) &&
    s.grid.hasColumn t.target.fieldId

/-- The operation brings the outcome of a lookup: a value, an answer that may
hold none, or that there will be no answer. -/
def Operation.Answers (t : Ticket) : Operation → Prop
  | .applyLookup u _ | .answerLookup u _ | .abandonLookup u => u = t
  | _ => False

theorem accepts_iff :
    s.accepts t = true ↔ s.lookups.isCurrent t = true ∧ s.grid.HasCell t.target := by
  rw [accepts, Bool.and_eq_true, Bool.and_eq_true, decide_eq_true_eq, and_assoc]
  rfl

theorem missing_of_refused
    (hrefused : s.accepts t = false) (hcurrent : s.lookups.isCurrent t = true) :
    ¬s.grid.HasCell t.target := by
  intro hthere
  rw [accepts_iff.2 ⟨hcurrent, hthere⟩] at hrefused
  cases hrefused

theorem reply_applyLookup (s : Store) (t : Ticket) (value : Json) :
    (s.step (.applyLookup t value)).reply = .flag (s.accepts t) := by
  simp only [step]
  cases haccepts : s.accepts t with
  | true =>
      obtain ⟨hcurrent, hthere⟩ := accepts_iff.1 haccepts
      rw [applyLookup_of_current hcurrent hthere, publish_reply]
  | false =>
      cases hcurrent : s.lookups.isCurrent t with
      | false => rw [applyLookup_of_not_current hcurrent, quiet_reply]
      | true =>
          rw [applyLookup_of_missing hcurrent (missing_of_refused haccepts hcurrent), quiet_reply]

/-- What waits for an answer is there, so an answer that counts is written. -/
theorem Anchored.accepts_eq (hs : s.Anchored) (t : Ticket) :
    s.accepts t = s.lookups.isCurrent t := by
  unfold accepts
  cases hcurrent : s.lookups.isCurrent t with
  | false => rfl
  | true =>
      have hthere : s.grid.HasCell t.target := hs _ _ (Lookups.isCurrent_iff.1 hcurrent).2
      simp [hthere.1, hthere.2]

theorem Anchored.run (hs : s.Anchored) (ops : List Operation) : (s.run ops).Anchored := by
  induction ops generalizing s with
  | nil => exact hs
  | cons op rest ih => exact ih (hs.step op)

/-! ## One operation -/

/-- A step that hands out no tickets, and at most takes some away. -/
structure HandsOutNone (s : Store) (r : Step) : Prop where
  tickets : r.reply.tickets = []
  loses : s.lookups.Loses r.store.lookups

theorem handsOutNone_applyLookup (s : Store) (t : Ticket) (value : Json) :
    s.HandsOutNone (s.applyLookup t value) := by
  rcases s.applyLookup_cases t value with hlate | hmissing | hwritten
  · rw [hlate]
    exact ⟨rfl, .nothing⟩
  · rw [hmissing]
    exact ⟨rfl, .one t⟩
  · rw [hwritten]
    exact ⟨rfl, .one t⟩

theorem handsOutNone_answerLookup (s : Store) (t : Ticket) (body : Json) :
    s.HandsOutNone (s.answerLookup t body) := by
  unfold answerLookup
  split
  · exact s.handsOutNone_applyLookup t _
  · exact ⟨rfl, .one t⟩

theorem handsOutNone_edit (s : Store) (e : StructuralEdit) :
    s.HandsOutNone (s.step (.edit e)) := by
  refine ⟨by rw [reply_edit]; rfl, ?_⟩
  simp only [step]
  cases hchange : (e.apply s.policy s.grid).change.isNone with
  | true =>
      rw [s.commit_of_refused hchange]
      exact .nothing
  | false =>
      have hlookups := (s.commit_of_changed hchange e.description).2.lookups
      rw [StructuralEdit.change_of_committed hchange] at hlookups
      rw [hlookups]
      cases e with
      | addRow => exact .nothing
      | removeRow index => exact .all
      | mergeRows => exact .all
      | splitRow => exact .all
      | addColumn label => exact .columns _
      | removeColumn fieldId => exact .columns _
      | mergeColumns => exact .columns _
      | splitColumn => exact .columns _

theorem handsOutNone_select (s : Store) (g : Option Grid) : s.HandsOutNone (s.select g) := by
  cases g with
  | none => exact ⟨rfl, .nothing⟩
  | some g => exact ⟨rfl, .nothing⟩

theorem handsOutNone_travel (s : Store) (target : Option (Grid × History Grid)) :
    s.HandsOutNone (s.travel target) := by
  cases target with
  | none => exact ⟨rfl, .nothing⟩
  | some target =>
      have hlookups : (s.travel (some target)).store.lookups = s.lookups.invalidateAll :=
        (restored_restore target.1 target.2 s).lookups
      refine ⟨rfl, ?_⟩
      rw [hlookups]
      exact .all

/-- An operation hands out no tickets, or it is an edit that writes a cell. -/
theorem handsOut_cases (s : Store) (op : Operation) :
    s.HandsOutNone (s.step op) ∨
      ∃ row fieldId raw value,
        op = .updateCell row fieldId raw ∧
        (s.grid.cell? ⟨row, fieldId⟩ == some value) = false ∧
        s.grid.HasCell ⟨row, fieldId⟩ ∧
        s.step op = s.write row fieldId value := by
  cases op with
  | loadSchema schema => exact .inl ⟨rfl, .all⟩
  | supplyRows rows => exact .inl ⟨rfl, .all⟩
  | supplyOptions options => exact .inl ⟨rfl, .nothing⟩
  | setRole role => exact .inl ⟨rfl, .nothing⟩
  | updateCell row fieldId raw =>
      simp only [step]
      rcases s.updateCell_cases row fieldId raw with
        ⟨e, hquiet⟩ | ⟨value, -, hquiet⟩ | ⟨value, hother, hthere, hwrite⟩
      · rw [hquiet]
        exact .inl ⟨rfl, .nothing⟩
      · rw [hquiet]
        exact .inl ⟨rfl, .nothing⟩
      · exact .inr ⟨row, fieldId, raw, value, rfl, hother, hthere, hwrite⟩
  | applyLookup t value => exact .inl (s.handsOutNone_applyLookup t value)
  | answerLookup t body => exact .inl (s.handsOutNone_answerLookup t body)
  | abandonLookup t => exact .inl ⟨rfl, .one t⟩
  | edit e => exact .inl (s.handsOutNone_edit e)
  | toggleRow index => exact .inl (s.handsOutNone_select _)
  | toggleColumn fieldId => exact .inl (s.handsOutNone_select _)
  | clearSelection => exact .inl ⟨rfl, .nothing⟩
  | setPage page => exact .inl ⟨rfl, .nothing⟩
  | nextPage => exact .inl ⟨rfl, .nothing⟩
  | previousPage => exact .inl ⟨rfl, .nothing⟩
  | undo => exact .inl (s.handsOutNone_travel _)
  | redo => exact .inl (s.handsOutNone_travel _)

/-- The tickets are those handed out so far: no two are the same, and the ones
to come differ from them. -/
structure HandedOut (tickets : List Ticket) (s : Store) : Prop where
  distinct : s.lookups.Distinct
  nodup : tickets.Nodup
  known : ∀ t ∈ tickets, s.lookups.Knows t

theorem tickets_write (s : Store) (row : Nat) (fieldId : String) (value : Json) :
    (s.write row fieldId value).reply.tickets =
      (s.planned row fieldId value).1.map (·.ticket) := rfl

theorem HandedOut.write
    {tickets : List Ticket} (hs : s.HandedOut tickets)
    (row : Nat) (fieldId : String) (value : Json) :
    (s.write row fieldId value).store.HandedOut
      (tickets ++ (s.write row fieldId value).reply.tickets) := by
  have hsuperseded := s.lookups.extends_supersede ⟨row, fieldId⟩
  rw [tickets_write]
  refine ⟨(hs.distinct.supersede _).plan, ?_, ?_⟩
  · refine List.nodup_append.2 ⟨hs.nodup, Lookups.nodup_tickets_plan, ?_⟩
    -- a ticket that was handed out before has a smaller number
    rintro t ht u hu rfl
    have hold : t.sequence ≤ (s.lookups.supersede ⟨row, fieldId⟩).issued :=
      ((hs.known t ht).extend hsuperseded).sequence
    exact Nat.not_lt.2 hold (Lookups.issued_lt_of_mem_plan hu)
  · intro t ht
    rcases List.mem_append.1 ht with hold | hnew
    · exact (hs.known t hold).extend (hsuperseded.trans (Lookups.extends_plan _ _))
    · obtain ⟨r, hr, rfl⟩ := List.mem_map.1 hnew
      exact (Lookups.of_mem_plan hr).1

theorem HandedOut.step
    {tickets : List Ticket} (hs : s.HandedOut tickets) (op : Operation) :
    (s.step op).store.HandedOut (tickets ++ (s.step op).reply.tickets) := by
  rcases s.handsOut_cases op with hnone | ⟨row, fieldId, raw, value, -, -, -, hwrite⟩
  · rw [hnone.tickets, List.append_nil]
    exact ⟨hs.distinct.loses hnone.loses, hs.nodup,
      fun t ht => (hs.known t ht).extend hnone.loses.extends⟩
  · rw [hwrite]
    exact hs.write row fieldId value

theorem Reachable.distinct {admits : Schema → Prop} (hs : Reachable admits s) :
    s.lookups.Distinct := by
  induction hs with
  | start registry hschema => exact List.nodup_nil
  | @step s _ op _ ih =>
      have hnone : s.HandedOut [] := ⟨ih, List.nodup_nil, by simp⟩
      exact (hnone.step op).distinct

theorem nodup_tickets (s : Store) (op : Operation) : (s.step op).reply.tickets.Nodup := by
  rcases s.handsOut_cases op with hnone | ⟨row, fieldId, raw, value, -, -, -, hwrite⟩
  · rw [hnone.tickets]
    exact List.nodup_nil
  · rw [hwrite, tickets_write]
    exact Lookups.nodup_tickets_plan

theorem isCurrent_of_mem_tickets
    (hdistinct : s.grid.fieldIds.Nodup) {op : Operation} {t : Ticket}
    (ht : t ∈ (s.step op).reply.tickets) :
    (s.step op).store.lookups.isCurrent t = true := by
  rcases s.handsOut_cases op with hnone | ⟨row, fieldId, raw, value, -, -, -, hwrite⟩
  · rw [hnone.tickets] at ht
    cases ht
  · rw [hwrite, tickets_write] at ht
    rw [hwrite]
    obtain ⟨r, hr, rfl⟩ := List.mem_map.1 ht
    exact Lookups.isCurrent_of_mem_plan hdistinct hr

/-! ## Runs -/

theorem HandedOut.run
    {tickets : List Ticket} (hs : s.HandedOut tickets) (ops : List Operation) :
    (s.run ops).HandedOut (tickets ++ s.issued ops) := by
  induction ops generalizing s tickets with
  | nil =>
      rw [issued, List.append_nil]
      exact hs
  | cons op rest ih =>
      rw [issued, ← List.append_assoc]
      exact ih (hs.step op)

theorem handedOut_ofSchema (registry : Registry) (schema : Schema) :
    (ofSchema registry schema).HandedOut [] where
  distinct := List.nodup_nil
  nodup := List.nodup_nil
  known := by simp

theorem handedOut_run (registry : Registry) (schema : Schema) (ops : List Operation) :
    ((ofSchema registry schema).run ops).HandedOut ((ofSchema registry schema).issued ops) :=
  (handedOut_ofSchema registry schema).run ops

theorem anchored_run (registry : Registry) (schema : Schema) (ops : List Operation) :
    ((ofSchema registry schema).run ops).Anchored := by
  have hstart : (ofSchema registry schema).Anchored := Lookups.within_invalidateAll _ _
  exact hstart.run ops

theorem issued_append_singleton (s : Store) (ops : List Operation) (op : Operation) :
    s.issued (ops ++ [op]) = s.issued ops ++ ((s.run ops).step op).reply.tickets := by
  induction ops generalizing s with
  | nil => exact List.append_nil _
  | cons first rest ih =>
      rw [List.cons_append, issued, issued, ih, List.append_assoc]
      rfl

theorem of_mem_issued (ht : t ∈ s.issued ops) :
    ∃ before op after,
      ops = before ++ op :: after ∧ t ∈ ((s.run before).step op).reply.tickets := by
  induction ops generalizing s with
  | nil => cases ht
  | cons op rest ih =>
      rw [issued, List.mem_append] at ht
      rcases ht with hfirst | hlater
      · exact ⟨[], op, rest, rfl, hfirst⟩
      · obtain ⟨before, later, after, hsplit, hticket⟩ := ih hlater
        exact ⟨op :: before, later, after, by rw [hsplit, List.cons_append], hticket⟩

/-! ## Answers that no longer count -/

/-- An answer to the lookup is refused, and nothing changes. -/
def Refuses (s : Store) (t : Ticket) : Prop :=
  (∀ value, s.step (.applyLookup t value) = s.quiet (.flag false)) ∧
    ∀ body, s.step (.answerLookup t body) = s.quiet (.flag false)

theorem abandonLookup_of_not_current (hcurrent : s.lookups.isCurrent t = false) :
    s.abandonLookup t = s := by
  rw [abandonLookup, Lookups.retire_of_not_current hcurrent]

theorem refuses_of_not_current (hcurrent : s.lookups.isCurrent t = false) : s.Refuses t := by
  constructor
  · intro value
    exact applyLookup_of_not_current hcurrent value
  · intro body
    simp only [step, answerLookup]
    split
    · exact applyLookup_of_not_current hcurrent _
    · rw [abandonLookup_of_not_current hcurrent]

/-- The outcome of a lookup that no longer counts changes nothing. -/
theorem store_of_answers
    {op : Operation} (hop : op.Answers t) (hcurrent : s.lookups.isCurrent t = false) :
    (s.step op).store = s := by
  have hrefuses := refuses_of_not_current hcurrent
  cases op with
  | applyLookup u value =>
      cases hop
      rw [hrefuses.1, quiet_store]
  | answerLookup u body =>
      cases hop
      rw [hrefuses.2, quiet_store]
  | abandonLookup u =>
      cases hop
      exact abandonLookup_of_not_current hcurrent
  | _ => cases hop

theorem not_current_run
    (hs : s.Anchored) (hknown : s.lookups.Knows t) (hcurrent : s.lookups.isCurrent t = false)
    (ops : List Operation) :
    (s.run ops).lookups.isCurrent t = false := by
  rw [Bool.eq_false_iff]
  intro hagain
  have hbefore := ((carries_run hs hknown ops).current.1 hagain).1
  rw [hcurrent] at hbefore
  cases hbefore

theorem not_current_of_answered
    (hs : s.Anchored) (hknown : s.lookups.Knows t) {answer : Operation}
    (hanswer : answer.Answers t) (hmem : answer ∈ ops) :
    (s.run ops).lookups.isCurrent t = false := by
  rw [Bool.eq_false_iff]
  intro hcurrent
  have hundisturbed := not_not.1 ((carries_run hs hknown ops).current.1 hcurrent).2
  obtain ⟨before, after, hsplit⟩ := List.append_of_mem hmem
  have houtdates : Outdates t (s.run before) answer := by
    cases answer <;> first | exact hanswer | cases hanswer
  exact hundisturbed before answer after hsplit houtdates

end Store
end RecordGrid
