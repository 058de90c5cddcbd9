import RecordGrid.Proofs.Json.Equality
import RecordGrid.Proofs.Lookup.Tickets
import RecordGrid.Proofs.Store.Consistent

/-!
# Which answers count

A ticket stays current for as long as no operation outdates it.  Together with
the fact that a cell which waits for an answer is a cell of the grid, this says
of every answer, however late, whether it is written.
-/

namespace RecordGrid
namespace Store

variable {s : Store} {t : Ticket}

/-- The operation, made on the store, takes away what a ticket counts for. -/
def Outdates (t : Ticket) (s : Store) (op : Operation) : Prop :=
  match op with
  | .loadSchema _ | .supplyRows _ => True
  | .updateCell row fieldId _ =>
      ∃ requests, (s.step op).reply = .requests (.ok requests) ∧
        ((∃ r ∈ requests, r.ticket.target = t.target) ∨
          (t.target = ⟨row, fieldId⟩ ∧
            (s.grid.cell? t.target == (s.step op).store.grid.cell? t.target) = false))
  | .applyLookup u _ | .answerLookup u _ | .abandonLookup u => u = t
  | .edit (.removeRow _) | .edit .mergeRows | .edit .splitRow =>
      (s.step op).reply = .flag true
  | .edit (.removeColumn _) | .edit .mergeColumns =>
      (s.step op).reply = .flag true ∧
        s.grid.hasColumn t.target.fieldId = true ∧
        (s.step op).store.grid.hasColumn t.target.fieldId = false
  | .edit .addRow | .edit (.addColumn _) | .edit .splitColumn => False
  | .undo | .redo => (s.step op).reply = .flag true
  | .supplyOptions _ | .setRole _ => False
  | .toggleRow _ | .toggleColumn _ | .clearSelection => False
  | .setPage _ | .nextPage | .previousPage => False

/-- No operation of the run outdates the ticket. -/
def Undisturbed (t : Ticket) (s : Store) (ops : List Operation) : Prop :=
  ∀ before op after, ops = before ++ op :: after → ¬Outdates t (s.run before) op

/-- Every cell that waits for an answer is a cell of the grid. -/
def Anchored (s : Store) : Prop := s.lookups.Within s.grid.HasCell

/-- What a step says about a ticket: whether it is current now follows from
whether it was, and from whether the step has outdated it. -/
structure Carries (t : Ticket) (before after : Store) (outdated : Prop) : Prop where
  known : before.lookups.Extends after.lookups
  anchored : after.Anchored
  current : after.lookups.isCurrent t = true ↔
    before.lookups.isCurrent t = true ∧ ¬outdated

variable {next : Store} {outdated : Prop}

theorem Carries.congr
    {other : Prop} (hnext : Carries t s next outdated)
    (hiff : s.lookups.isCurrent t = true → (outdated ↔ other)) :
    Carries t s next other where
  known := hnext.known
  anchored := hnext.anchored
  current := by
    rw [hnext.current]
    exact and_congr_right fun hcurrent => not_congr (hiff hcurrent)

theorem carries_unchanged
    (hs : s.Anchored) (hcells : ∀ target, s.grid.HasCell target → next.grid.HasCell target)
    (hlookups : next.lookups = s.lookups) :
    Carries t s next False where
  known := by
    rw [hlookups]
    exact .refl _
  anchored := by
    rw [Anchored, hlookups]
    exact hs.mono hcells
  current := by simp [hlookups]

theorem carries_invalidated (hlookups : next.lookups = s.lookups.invalidateAll) :
    Carries t s next True where
  known := by
    rw [hlookups]
    exact Lookups.extends_invalidateAll _
  anchored := by
    rw [Anchored, hlookups]
    exact Lookups.within_invalidateAll _ _
  current := by simp [hlookups, Lookups.isCurrent_invalidateAll]

theorem carries_retired
    (hs : s.Anchored) (hcells : ∀ target, s.grid.HasCell target → next.grid.HasCell target)
    {u : Ticket} (hlookups : next.lookups = s.lookups.retire u) :
    Carries t s next (u = t) where
  known := by
    rw [hlookups]
    exact Lookups.extends_retire _ _
  anchored := by
    rw [Anchored, hlookups]
    exact (hs.retire u).mono hcells
  current := by
    rw [hlookups]
    exact Lookups.isCurrent_retire

/-! ## Edits of cells -/

theorem carries_write
    (hs : s.Anchored) (ht : s.lookups.Knows t) {row : Nat} {fieldId : String}
    (hthere : s.grid.HasCell ⟨row, fieldId⟩) (value : Json) :
    Carries t s (s.write row fieldId value).store
      ((∃ r ∈ (s.planned row fieldId value).1, r.ticket.target = t.target) ∨
        t.target = ⟨row, fieldId⟩) := by
  have hsuperseded := s.lookups.extends_supersede ⟨row, fieldId⟩
  rw [write_eq]
  refine ⟨hsuperseded.trans (Lookups.extends_plan _ _), ?_, ?_⟩
  · have hcolumns : ∀ c ∈ s.grid.columns, s.grid.HasCell ⟨row, c.fieldId⟩ := by
      intro c hc
      exact ⟨hthere.1, Grid.hasColumn_iff.2 (List.mem_map_of_mem hc)⟩
    exact ((hs.supersede hthere).plan fieldId value hcolumns).mono
      fun target htarget => htarget.setCell row fieldId value
  · simp only [publish_store, planned]
    rw [Lookups.isCurrent_plan _ (ht.extend hsuperseded), Lookups.isCurrent_supersede ht]
    constructor
    · rintro ⟨⟨hcurrent, hcell⟩, hnone⟩
      refine ⟨hcurrent, ?_⟩
      rintro (⟨r, hr, htarget⟩ | htarget)
      · exact hnone r hr htarget
      · exact hcell htarget.symm
    · rintro ⟨hcurrent, hkept⟩
      exact ⟨⟨hcurrent, fun htarget => hkept (.inr htarget.symm)⟩,
        fun r hr htarget => hkept (.inl ⟨r, hr, htarget⟩)⟩

/-- An edit that is written changes its cell, so it outdates the tickets for
the cell and for all that is looked up anew. -/
theorem outdates_of_write
    {row : Nat} {fieldId : String} {raw value : Json}
    (hother : (s.grid.cell? ⟨row, fieldId⟩ == some value) = false)
    (hthere : s.grid.HasCell ⟨row, fieldId⟩)
    (hwrite : s.updateCell row fieldId raw = s.write row fieldId value) :
    Outdates t s (.updateCell row fieldId raw) ↔
      (∃ r ∈ (s.planned row fieldId value).1, r.ticket.target = t.target) ∨
        t.target = ⟨row, fieldId⟩ := by
  have hchanged : t.target = ⟨row, fieldId⟩ →
      (s.grid.cell? t.target == (s.grid.setCell row fieldId value).cell? t.target) = false := by
    intro htarget
    rw [htarget, (Grid.writtenAt_setCell ⟨row, fieldId⟩ value hthere.1).written]
    exact hother
  simp only [Outdates, step, hwrite, write_eq, publish_reply, publish_store,
    Reply.requests.injEq, Except.ok.injEq, exists_eq_left']
  constructor
  · rintro (hstarted | ⟨htarget, -⟩)
    · exact .inl hstarted
    · exact .inr htarget
  · rintro (hstarted | htarget)
    · exact .inl hstarted
    · exact .inr ⟨htarget, hchanged htarget⟩

theorem carries_updateCell
    (hs : s.Anchored) (ht : s.lookups.Knows t) (row : Nat) (fieldId : String) (raw : Json) :
    Carries t s (s.updateCell row fieldId raw).store
      (Outdates t s (.updateCell row fieldId raw)) := by
  rcases s.updateCell_cases row fieldId raw with
    ⟨e, hquiet⟩ | ⟨value, hsame, hquiet⟩ | ⟨value, hother, hthere, hwrite⟩
  · have hkept : ¬Outdates t s (.updateCell row fieldId raw) := by
      rintro ⟨requests, hreply, -⟩
      simp only [step, hquiet, quiet_reply] at hreply
      cases hreply
    rw [hquiet]
    exact (carries_unchanged hs (fun _ hcell => hcell) rfl).congr (by simp [hkept])
  · have hkept : ¬Outdates t s (.updateCell row fieldId raw) := by
      rintro ⟨requests, hreply, hstarted | ⟨htarget, hchanged⟩⟩
      · simp only [step, hquiet, quiet_reply] at hreply
        cases hreply
        obtain ⟨r, hr, -⟩ := hstarted
        cases hr
      · simp only [step, hquiet, quiet_store, htarget] at hchanged
        rw [Json.option_beq_self_of_beq hsame] at hchanged
        cases hchanged
    rw [hquiet]
    exact (carries_unchanged hs (fun _ hcell => hcell) rfl).congr (by simp [hkept])
  · rw [hwrite]
    exact (carries_write hs ht hthere value).congr
      fun _ => (outdates_of_write hother hthere hwrite).symm

/-! ## Answers -/

theorem carries_applyLookup
    (hs : s.Anchored) (u : Ticket) (value : Json) :
    Carries t s (s.applyLookup u value).store (u = t) := by
  cases hcurrent : s.lookups.isCurrent u with
  | false =>
      rw [applyLookup_of_not_current hcurrent]
      have hretire : s.lookups.retire u = s.lookups := Lookups.retire_of_not_current hcurrent
      exact carries_retired hs (fun _ hcell => hcell) hretire.symm
  | true =>
      have hthere : s.grid.HasCell u.target := hs _ _ (Lookups.isCurrent_iff.1 hcurrent).2
      rw [applyLookup_of_current hcurrent hthere]
      exact carries_retired hs
        (fun _ hcell => hcell.setCell u.target.row u.target.fieldId value) rfl

theorem carries_abandonLookup (hs : s.Anchored) (u : Ticket) :
    Carries t s (s.abandonLookup u) (u = t) := by
  have hcells : ∀ target, s.grid.HasCell target → (s.abandonLookup u).grid.HasCell target :=
    fun _ hcell => hcell
  exact carries_retired hs hcells rfl

/-! ## Structural edits -/

theorem reply_edit (s : Store) (e : StructuralEdit) :
    (s.step (.edit e)).reply = .flag (!(e.apply s.policy s.grid).change.isNone) := by
  simp only [step]
  cases hchange : (e.apply s.policy s.grid).change.isNone with
  | true =>
      rw [s.commit_of_refused hchange]
      rfl
  | false => exact (s.commit_of_changed hchange _).1

/-- An edit that is made outdates all tickets where it renumbers records, and
those for columns that are gone where it changes columns. -/
theorem carries_edit_of_committed
    (hs : s.Anchored) {e : StructuralEdit}
    (hchange : (e.apply s.policy s.grid).change.isNone = false) :
    Carries t s (s.step (.edit e)).store
      (e.mark.renumbered = true ∨
        (e.mark.columns = true ∧
          (s.step (.edit e)).store.grid.hasColumn t.target.fieldId = false)) := by
  obtain ⟨-, hnext⟩ := s.commit_of_changed hchange e.description
  have hmark := StructuralEdit.change_of_committed hchange
  have hlookups := hnext.lookups
  rw [hmark] at hlookups
  simp only [step, hnext.grid]
  cases hrenumbered : e.mark.renumbered with
  | true =>
      have hcolumns : e.mark.columns = false := by
        cases e <;> first | rfl | cases hrenumbered
      simp only [hrenumbered, hcolumns, if_true, Bool.false_eq_true, if_false] at hlookups
      exact (carries_invalidated hlookups).congr (by simp)
  | false =>
      simp only [hrenumbered, Bool.false_eq_true, if_false] at hlookups
      cases hcolumns : e.mark.columns with
      | false =>
          simp only [hcolumns, Bool.false_eq_true, if_false] at hlookups
          refine (carries_unchanged hs ?_ hlookups).congr (by simp)
          intro target hthere
          rw [hnext.grid]
          exact StructuralEdit.hasCell_apply hthere hrenumbered (by simp [hcolumns])
      | true =>
          simp only [hcolumns, if_true] at hlookups
          refine ⟨?_, ?_, ?_⟩
          · rw [hlookups]
            exact Lookups.extends_retain _ _
          · rw [Anchored, hlookups, hnext.grid]
            refine (hs.retain _).mono ?_
            rintro target ⟨hthere, hkept⟩
            exact StructuralEdit.hasCell_apply hthere hrenumbered fun _ => hkept
          · rw [hlookups, Lookups.isCurrent_retain]
            simp

theorem carries_edit (hs : s.Anchored) (e : StructuralEdit) :
    Carries t s (s.step (.edit e)).store (Outdates t s (.edit e)) := by
  have hreply := s.reply_edit e
  cases hchange : (e.apply s.policy s.grid).change.isNone with
  | true =>
      rw [hchange] at hreply
      have hsame : (s.step (.edit e)).store = s := by
        simp only [step, s.commit_of_refused hchange, quiet_store]
      have hkept : ¬Outdates t s (.edit e) := by
        cases e <;> simp [Outdates, hreply]
      rw [hsame]
      exact (carries_unchanged hs (fun _ hcell => hcell) rfl).congr (by simp [hkept])
  | false =>
      rw [hchange] at hreply
      refine (carries_edit_of_committed hs hchange).congr fun hcurrent => ?_
      have hcolumn : s.grid.hasColumn t.target.fieldId = true :=
        (hs _ _ (Lookups.isCurrent_iff.1 hcurrent).2).2
      have hgrid : (s.step (.edit e)).store.grid = (e.apply s.policy s.grid).grid :=
        (s.commit_of_changed hchange e.description).2.grid
      have hid := Grid.hasColumn_iff.1 hcolumn
      cases e with
      | addRow => simp [Outdates, StructuralEdit.mark]
      | removeRow index => simp [Outdates, StructuralEdit.mark, hreply]
      | mergeRows => simp [Outdates, StructuralEdit.mark, hreply]
      | splitRow => simp [Outdates, StructuralEdit.mark, hreply]
      | removeColumn fieldId => simp [Outdates, StructuralEdit.mark, hreply, hcolumn]
      | mergeColumns => simp [Outdates, StructuralEdit.mark, hreply, hcolumn]
      | addColumn label =>
          have hkept := Grid.hasColumn_iff.2 (StructuralEdit.mem_fieldIds_addColumn hid label)
          rw [hgrid, StructuralEdit.apply, hkept]
          simp [Outdates, StructuralEdit.mark]
      | splitColumn =>
          have hkept := Grid.hasColumn_iff.2 (StructuralEdit.mem_fieldIds_splitColumn hid)
          rw [hgrid, StructuralEdit.apply, hkept]
          simp [Outdates, StructuralEdit.mark]

/-! ## Single operations and runs -/

theorem carries_select
    (hs : s.Anchored) {g : Option Grid}
    (hcells : ∀ selected target, g = some selected →
      s.grid.HasCell target → selected.HasCell target) :
    Carries t s (s.select g).store False := by
  cases g with
  | none => exact carries_unchanged hs (fun _ hcell => hcell) rfl
  | some selected => exact carries_unchanged hs (fun target => hcells selected target rfl) rfl

theorem carries_travel (hs : s.Anchored) (target : Option (Grid × History Grid)) :
    Carries t s (s.travel target).store ((s.travel target).reply = .flag true) := by
  cases target with
  | none =>
      refine (carries_unchanged hs (fun _ hcell => hcell) rfl).congr ?_
      simp [travel]
  | some target =>
      refine (carries_invalidated (restored_restore target.1 target.2 s).lookups).congr ?_
      simp [travel, restore]

theorem carries_step
    (hs : s.Anchored) (ht : s.lookups.Knows t) (op : Operation) :
    Carries t s (s.step op).store (Outdates t s op) := by
  have hsame : ∀ target, s.grid.HasCell target → s.grid.HasCell target := fun _ hcell => hcell
  cases op with
  | loadSchema schema => exact carries_invalidated rfl
  | supplyRows rows => exact carries_invalidated rfl
  | supplyOptions options => exact carries_unchanged hs hsame rfl
  | setRole role => exact carries_unchanged hs hsame rfl
  | updateCell row fieldId raw => exact carries_updateCell hs ht row fieldId raw
  | applyLookup u value => exact carries_applyLookup hs u value
  | answerLookup u body =>
      simp only [step, answerLookup]
      split
      · exact carries_applyLookup hs u _
      · exact carries_abandonLookup hs u
  | abandonLookup u => exact carries_abandonLookup hs u
  | edit e => exact carries_edit hs e
  | toggleRow index =>
      refine carries_select hs ?_
      intro selected target hselected hcell
      obtain ⟨-, rfl⟩ := Grid.of_toggleRow hselected
      exact hcell
  | toggleColumn fieldId =>
      refine carries_select hs ?_
      intro selected target hselected hcell
      obtain ⟨-, rfl⟩ := Grid.of_toggleColumn hselected
      exact hcell
  | clearSelection => exact carries_unchanged hs hsame rfl
  | setPage page => exact carries_unchanged hs hsame rfl
  | nextPage => exact carries_unchanged hs hsame rfl
  | previousPage => exact carries_unchanged hs hsame rfl
  | undo => exact carries_travel hs _
  | redo => exact carries_travel hs _

theorem undisturbed_nil : Undisturbed t s [] := by
  intro before op after hsplit
  cases before <;> cases hsplit

theorem undisturbed_cons {op : Operation} {rest : List Operation} :
    Undisturbed t s (op :: rest) ↔
      ¬Outdates t s op ∧ Undisturbed t (s.step op).store rest := by
  constructor
  · intro hall
    refine ⟨hall [] op rest rfl, ?_⟩
    intro before later after hsplit
    exact hall (op :: before) later after (by rw [hsplit, List.cons_append])
  · rintro ⟨hfirst, hrest⟩ before later after hsplit
    cases before with
    | nil =>
        cases hsplit
        exact hfirst
    | cons first before =>
        rw [List.cons_append, List.cons.injEq] at hsplit
        obtain ⟨rfl, hsplit⟩ := hsplit
        exact hrest before later after hsplit

theorem carries_run (hs : s.Anchored) (ht : s.lookups.Knows t) (ops : List Operation) :
    Carries t s (s.run ops) (¬Undisturbed t s ops) := by
  induction ops generalizing s with
  | nil =>
      refine (carries_unchanged hs (fun _ hcell => hcell) rfl).congr ?_
      simp [undisturbed_nil]
  | cons op rest ih =>
      have hstep := carries_step hs ht op
      have hrest := ih hstep.anchored (ht.extend hstep.known)
      refine ⟨hstep.known.trans hrest.known, hrest.anchored, ?_⟩
      calc ((s.step op).store.run rest).lookups.isCurrent t = true
          ↔ (s.step op).store.lookups.isCurrent t = true ∧
              ¬¬Undisturbed t (s.step op).store rest := hrest.current
        _ ↔ s.lookups.isCurrent t = true ∧ ¬¬Undisturbed t s (op :: rest) := by
            rw [hstep.current, undisturbed_cons, not_not, not_not, and_assoc]

theorem Anchored.step (hs : s.Anchored) (op : Operation) : (s.step op).store.Anchored := by
  -- the step is the same for all tickets, so any ticket that is known will do
  have hknown : s.lookups.Knows ⟨⟨0, ""⟩, 0, 0⟩ := ⟨Nat.zero_le _, Nat.zero_le _⟩
  exact (carries_step hs hknown op).anchored

theorem Reachable.anchored {admits : Schema → Prop} (hs : Reachable admits s) : s.Anchored := by
  induction hs with
  | start registry hschema => exact Lookups.within_invalidateAll _ _
  | @step s _ op _ ih => exact ih.step op

/-- A ticket is known and current right after the edit that it was issued for. -/
theorem issued_current
    (hs : Reachable Schema.IsRead s) {row : Nat} {fieldId : String} {raw : Json}
    {requests : List Request}
    (hreply : (s.step (.updateCell row fieldId raw)).reply = .requests (.ok requests))
    {r : Request} (hr : r ∈ requests) :
    (s.step (.updateCell row fieldId raw)).store.lookups.Knows r.ticket ∧
      (s.step (.updateCell row fieldId raw)).store.lookups.isCurrent r.ticket = true := by
  simp only [step] at hreply ⊢
  rcases s.updateCell_cases row fieldId raw with
    ⟨e, hquiet⟩ | ⟨value, -, hquiet⟩ | ⟨value, -, -, hwrite⟩
  · rw [hquiet] at hreply
    cases hreply
  · rw [hquiet] at hreply
    cases hreply
    cases hr
  · rw [hwrite, write_eq] at hreply ⊢
    cases hreply
    exact ⟨(Lookups.of_mem_plan hr).1,
      Lookups.isCurrent_of_mem_plan hs.consistent.grid.distinct hr⟩

/-- For every ticket that an edit issues, and whatever is done to the store
after that: the answer is written exactly when nothing has outdated the ticket.
Then it is written into its cell and nowhere else, and otherwise the store
stays as it is. -/
theorem answer_written_iff_undisturbed
    (hs : Reachable Schema.IsRead s) {row : Nat} {fieldId : String} {raw : Json}
    {requests : List Request}
    (hreply : (s.step (.updateCell row fieldId raw)).reply = .requests (.ok requests))
    {r : Request} (hr : r ∈ requests) (ops : List Operation) (value : Json) :
    let issued := (s.step (.updateCell row fieldId raw)).store
    let waiting := issued.run ops
    let answered := waiting.step (.applyLookup r.ticket value)
    ∃ applied : Bool,
      answered.reply = .flag applied ∧
      (applied = true ↔ Undisturbed r.ticket issued ops) ∧
      (applied = true →
        waiting.grid.WrittenAt answered.store.grid r.ticket.target value) ∧
      (applied = false → answered.store = waiting) := by
  intro issued waiting answered
  obtain ⟨hknown, hcurrent⟩ := issued_current hs hreply hr
  have hissued : issued.Anchored := Reachable.anchored (hs.step trivial)
  have hrun := carries_run hissued hknown ops
  have hiff : waiting.lookups.isCurrent r.ticket = true ↔ Undisturbed r.ticket issued ops := by
    rw [hrun.current, not_not]
    exact and_iff_right hcurrent
  refine ⟨waiting.lookups.isCurrent r.ticket, ?_, hiff, ?_, ?_⟩
  · cases hwaiting : waiting.lookups.isCurrent r.ticket with
    | false =>
        simp only [answered, step, applyLookup_of_not_current hwaiting, quiet_reply]
    | true =>
        have hthere := hrun.anchored _ _ (Lookups.isCurrent_iff.1 hwaiting).2
        simp only [answered, step, applyLookup_of_current hwaiting hthere, publish_reply]
  · intro hwaiting
    have hthere := hrun.anchored _ _ (Lookups.isCurrent_iff.1 hwaiting).2
    simp only [answered, step, applyLookup_of_current hwaiting hthere, publish_store]
    exact Grid.writtenAt_setCell r.ticket.target value hthere.1
  · intro hwaiting
    simp only [answered, step, applyLookup_of_not_current hwaiting, quiet_store]

/-- An answer that comes after another record was added and edited. -/
theorem answer_written_in_sample :
    ∃ applied : Bool,
      (((ofSchema .builtin .sample).run
          [.updateCell 0 "code" (.str "x"), .edit .addRow, .updateCell 1 "code" (.str "y")]).step
        (.applyLookup ⟨⟨0, "name"⟩, 1, 1⟩ (.str "X"))).reply = .flag applied ∧
      (applied = true ↔
        Undisturbed ⟨⟨0, "name"⟩, 1, 1⟩
          ((ofSchema .builtin .sample).run [.updateCell 0 "code" (.str "x")])
          [.edit .addRow, .updateCell 1 "code" (.str "y")]) ∧
      applied = true := by
  have hreply : ((ofSchema .builtin .sample).step (.updateCell 0 "code" (.str "x"))).reply =
      .requests (.ok [⟨⟨⟨0, "name"⟩, 1, 1⟩, "/names", "code", "x"⟩]) := rfl
  obtain ⟨applied, happlied, hiff, -, -⟩ :=
    answer_written_iff_undisturbed (Reachable.start .builtin Schema.sample_isRead) hreply
      (List.mem_cons_self ..) [.edit .addRow, .updateCell 1 "code" (.str "y")] (.str "X")
  refine ⟨applied, happlied, hiff, ?_⟩
  have hflag : Reply.flag applied = .flag true := happlied.symm.trans rfl
  exact Reply.flag.inj hflag

end Store
end RecordGrid
