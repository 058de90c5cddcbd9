import Mathlib.Data.List.Induction
import Mathlib.Data.List.Perm.Subperm
import RecordGrid.Proofs.Store.Issued
import RecordGrid.Proofs.Store.Undo

/-!
# How many lookups are pending

The lookups that are pending are counted by the cells that wait for an answer.
Every ticket whose answer would be written is for a cell of its own that waits,
and a cell waits for nothing else unless something was entered there while its
lookup was under way.
-/

namespace RecordGrid
namespace Store

variable {s : Store} {tickets : List Ticket} {t : Ticket} {ops : List Operation}

/-! ## Cells that wait and tickets that count -/

theorem Anchored.mem_accepted_iff (hs : s.Anchored) :
    t ∈ tickets.filter s.accepts ↔ t ∈ tickets ∧ s.lookups.isCurrent t = true := by
  rw [List.mem_filter, hs.accepts_eq]

/-- The tickets whose answers would be written are among those awaited, each
once. -/
theorem HandedOut.accepted_subperm (htickets : s.HandedOut tickets) (hs : s.Anchored) :
    (tickets.filter s.accepts).Subperm s.lookups.awaited := by
  refine (htickets.nodup.filter _).subperm ?_
  intro t ht
  exact htickets.distinct.mem_awaited_iff.2 (hs.mem_accepted_iff.1 ht).2

theorem HandedOut.accepted_le_pending (htickets : s.HandedOut tickets) (hs : s.Anchored) :
    (tickets.filter s.accepts).length ≤ s.lookups.pending := by
  have hlength := (htickets.accepted_subperm hs).length_le
  rwa [Lookups.length_awaited] at hlength

theorem HandedOut.pending_eq_iff (htickets : s.HandedOut tickets) (hs : s.Anchored) :
    s.lookups.pending = (tickets.filter s.accepts).length ↔
      ∀ cell, s.lookups.isTracked cell = true →
        ∃ t ∈ tickets.filter s.accepts, t.target = cell := by
  have hsubperm := htickets.accepted_subperm hs
  rw [← Lookups.length_awaited]
  constructor
  · intro hlength cell htracked
    obtain ⟨t, hcurrent, htarget⟩ := Lookups.isTracked_iff.1 htracked
    have hperm := hsubperm.perm_of_length_le (Nat.le_of_eq hlength)
    exact ⟨t, hperm.mem_iff.2 (htickets.distinct.mem_awaited_iff.2 hcurrent), htarget⟩
  · intro hcells
    refine Nat.le_antisymm (htickets.distinct.nodup_awaited.subperm ?_).length_le
      hsubperm.length_le
    intro t ht
    have hcurrent := htickets.distinct.mem_awaited_iff.1 ht
    obtain ⟨u, hu, htarget⟩ := hcells t.target (Lookups.isTracked_iff.2 ⟨t, hcurrent, rfl⟩)
    have hsame : u = t :=
      Lookups.eq_of_isCurrent (hs.mem_accepted_iff.1 hu).2 hcurrent htarget
    rw [← hsame]
    exact hu

/-! ## Edits that overtake a lookup -/

/-- The operation enters something else into a cell for which one of the tickets
counts, and starts no lookup for the cell anew. -/
def Overtakes (tickets : List Ticket) (s : Store) : Operation → Prop
  | .updateCell row fieldId raw =>
      s.Commits (.updateCell row fieldId raw) ∧
        (∃ t ∈ tickets, t.target = ⟨row, fieldId⟩ ∧ s.accepts t = true) ∧
        ∀ t ∈ (s.step (.updateCell row fieldId raw)).reply.tickets, t.target ≠ ⟨row, fieldId⟩
  | _ => False

/-- No edit of the run overtakes a lookup. -/
def NeverOvertakes (s : Store) (ops : List Operation) : Prop :=
  ∀ before op after, ops = before ++ op :: after →
    ¬Overtakes (s.issued before) (s.run before) op

/-- For every ticket of the run, the outcome of its lookup comes later. -/
def AllAnswered (s : Store) (ops : List Operation) : Prop :=
  ∀ before op after, ops = before ++ op :: after →
    ∀ t ∈ ((s.run before).step op).reply.tickets, ∃ answer ∈ after, answer.Answers t

/-- Every answer that counts is one for a ticket that was handed out. -/
def Covered (tickets : List Ticket) (s : Store) : Prop :=
  ∀ t, s.lookups.isCurrent t = true → t ∈ tickets

theorem commits_of_write
    {row : Nat} {fieldId : String} {raw value : Json}
    (hother : (s.grid.cell? ⟨row, fieldId⟩ == some value) = false)
    (hthere : s.grid.HasCell ⟨row, fieldId⟩)
    (hwrite : s.step (.updateCell row fieldId raw) = s.write row fieldId value) :
    s.Commits (.updateCell row fieldId raw) := by
  unfold Commits
  rw [hwrite, write_eq]
  refine ⟨⟨_, rfl⟩, ?_⟩
  simp only [publish_store]
  rw [(Grid.writtenAt_setCell ⟨row, fieldId⟩ value hthere.1).written]
  exact hother

theorem Covered.step
    (hcovered : s.Covered tickets) (hs : s.Anchored) {op : Operation}
    (hop : ¬Overtakes tickets s op) :
    (s.step op).store.Covered (tickets ++ (s.step op).reply.tickets) := by
  intro t ht
  rw [List.mem_append]
  rcases s.handsOut_cases op with
    hnone | ⟨row, fieldId, raw, value, rfl, hother, hthere, hwrite⟩
  · exact .inl (hcovered t (hnone.loses.isCurrent ht))
  · rw [hwrite] at ht
    rw [hwrite, tickets_write]
    rcases Lookups.of_isCurrent_plan ht with hnew | ⟨hsuperseded, hnotAsked⟩
    · exact .inr hnew
    · rcases Lookups.of_isCurrent_supersede hsuperseded with hcurrent | ⟨htracked, htarget⟩
      · exact .inl (hcovered t hcurrent)
      · -- the cell waits for a number that no ticket has
        exfalso
        obtain ⟨u, hcurrent, hu⟩ := Lookups.isTracked_iff.1 htracked
        have haccepted : s.accepts u = true := by
          rw [hs.accepts_eq]
          exact hcurrent
        refine hop ⟨commits_of_write hother hthere hwrite,
          ⟨u, hcovered u hcurrent, hu, haccepted⟩, ?_⟩
        rw [hwrite, tickets_write, ← htarget]
        exact hnotAsked

theorem covered_run
    (hs : s.Anchored) (hcovered : s.Covered []) (hnever : s.NeverOvertakes ops) :
    (s.run ops).Covered (s.issued ops) := by
  -- from the end, since what counts as overtaking depends on the tickets so far
  induction ops using List.reverseRecOn with
  | nil => exact hcovered
  | append_singleton ops op ih =>
      have hbefore : s.NeverOvertakes ops := by
        intro before earlier after hsplit
        exact hnever before earlier (after ++ [op]) (by rw [hsplit]; simp)
      rw [run_append, issued_append_singleton]
      exact (ih hbefore).step (hs.run ops) (hnever ops op [] rfl)

theorem covered_ofSchema (registry : Registry) (schema : Schema) :
    (ofSchema registry schema).Covered [] := by
  intro t ht
  have hnone : (ofSchema registry schema).lookups.isCurrent t = false :=
    Lookups.isCurrent_invalidateAll _ _
  rw [hnone] at ht
  cases ht

theorem accepted_eq_nil_of_allAnswered
    (registry : Registry) (schema : Schema)
    (hanswered : (ofSchema registry schema).AllAnswered ops) :
    ((ofSchema registry schema).issued ops).filter
      ((ofSchema registry schema).run ops).accepts = [] := by
  rw [List.filter_eq_nil_iff]
  intro t ht
  obtain ⟨before, op, after, hsplit, hticket⟩ := of_mem_issued ht
  obtain ⟨answer, hmem, hanswer⟩ := hanswered before op after hsplit t hticket
  have hanchored := anchored_run registry schema before
  have hknown : (((ofSchema registry schema).run before).step op).store.lookups.Knows t :=
    ((handedOut_run registry schema before).step op).known t (List.mem_append_right _ hticket)
  have hgone := not_current_of_answered (hanchored.step op) hknown hanswer hmem
  rw [(anchored_run registry schema ops).accepts_eq, hsplit, run_append, Bool.not_eq_true]
  exact hgone

/-- Whatever has been done to a store, no fewer lookups are pending than there
are tickets whose answers would be written, and exactly as many where every cell
that waits does so for one of these answers.  That is so as long as no edit
enters something else into a cell while a lookup for it is under way; then none
is pending once the outcome of every lookup has come. -/
theorem pending_counts_accepted
    (registry : Registry) (schema : Schema) (ops : List Operation) :
    let start := ofSchema registry schema
    let final := start.run ops
    let accepted := (start.issued ops).filter final.accepts
    (start.issued ops).Nodup ∧
      (∀ t value, (final.step (.applyLookup t value)).reply = .flag (final.accepts t)) ∧
      accepted.length ≤ final.lookups.pending ∧
      (final.lookups.pending = accepted.length ↔
        ∀ cell, final.lookups.isTracked cell = true → ∃ t ∈ accepted, t.target = cell) ∧
      (start.NeverOvertakes ops → final.lookups.pending = accepted.length) ∧
      (start.NeverOvertakes ops → start.AllAnswered ops → final.lookups.pending = 0) := by
  intro start final accepted
  have hstart : start.Anchored := anchored_run registry schema []
  have hfinal : final.Anchored := anchored_run registry schema ops
  have htickets : final.HandedOut (start.issued ops) := handedOut_run registry schema ops
  have hexact : start.NeverOvertakes ops → final.lookups.pending = accepted.length := by
    intro hnever
    have hcovered : final.Covered (start.issued ops) :=
      covered_run hstart (covered_ofSchema registry schema) hnever
    rw [htickets.pending_eq_iff hfinal]
    intro cell htracked
    obtain ⟨t, hcurrent, htarget⟩ := Lookups.isTracked_iff.1 htracked
    exact ⟨t, hfinal.mem_accepted_iff.2 ⟨hcovered t hcurrent, hcurrent⟩, htarget⟩
  refine ⟨htickets.nodup, fun t value => reply_applyLookup final t value,
    htickets.accepted_le_pending hfinal, htickets.pending_eq_iff hfinal, hexact, ?_⟩
  intro hnever hanswered
  have hnone : accepted = [] := accepted_eq_nil_of_allAnswered registry schema hanswered
  rw [hexact hnever, hnone, List.length_nil]

/-- One lookup, under way after the edit and done after its answer. -/
theorem pending_counts_accepted_in_sample :
    let asked : List Operation := [.updateCell 0 "code" (.str "x")]
    let answered : List Operation := asked ++ [.applyLookup ⟨⟨0, "name"⟩, 1, 1⟩ (.str "X")]
    let start := ofSchema .builtin .sample
    start.issued answered = [⟨⟨0, "name"⟩, 1, 1⟩] ∧
      (start.run asked).lookups.pending = 1 ∧
      start.NeverOvertakes answered ∧ start.AllAnswered answered ∧
      (start.run answered).lookups.pending = 0 := by
  intro asked answered start
  have hissued : start.issued answered = [⟨⟨0, "name"⟩, 1, 1⟩] := rfl
  have hnever : start.NeverOvertakes answered := by
    intro before op after hsplit
    change [_, _] = _ at hsplit
    rcases before with _ | ⟨first, _ | ⟨second, before⟩⟩
    · cases hsplit
      -- no ticket was handed out before the first edit
      rintro ⟨-, ⟨t, ht, -⟩, -⟩
      cases ht
    · cases hsplit
      exact id
    · simp at hsplit
  have hall : start.AllAnswered answered := by
    intro before op after hsplit t ht
    change [_, _] = _ at hsplit
    rcases before with _ | ⟨first, _ | ⟨second, before⟩⟩
    · cases hsplit
      have hticket : t ∈ [(⟨⟨0, "name"⟩, 1, 1⟩ : Ticket)] := ht
      rw [List.mem_singleton] at hticket
      exact ⟨_, List.mem_cons_self .., hticket.symm⟩
    · cases hsplit
      have hnone : t ∈ ([] : List Ticket) := ht
      cases hnone
    · simp at hsplit
  obtain ⟨-, -, -, -, -, hdone⟩ := pending_counts_accepted .builtin .sample answered
  exact ⟨hissued, rfl, hnever, hall, hdone hnever hall⟩

/-- A name that is entered while its lookup is under way leaves a lookup pending
that has been given up. -/
theorem pending_after_overtaken_lookup_abandoned :
    let t : Ticket := ⟨⟨0, "name"⟩, 1, 1⟩
    let ops : List Operation :=
      [.updateCell 0 "code" (.str "x"), .updateCell 0 "name" (.str "N"), .abandonLookup t]
    let start := ofSchema .builtin .sample
    start.issued ops = [t] ∧
      ((start.run ops).step (.applyLookup t (.str "X"))).reply = .flag false ∧
      (start.run ops).lookups.pending = 1 :=
  ⟨rfl, rfl, rfl⟩

end Store
end RecordGrid
