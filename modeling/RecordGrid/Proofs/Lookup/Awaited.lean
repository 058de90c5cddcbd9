import Mathlib.Data.List.Nodup
import RecordGrid.Proofs.Lookup.Tickets

/-!
# The tickets whose answers are awaited

Every cell that waits for an answer waits for a single one, so there are as
many tickets whose answers count as there are cells that wait.  Not all of them
need have been issued: where something is entered into a cell that waits, the
cell goes on waiting, for the answer to a ticket that nobody has.
-/

namespace RecordGrid
namespace Lookups

variable {l next : Lookups} {t : Ticket} {target : Target}

/-- No cell is tracked twice. -/
def Distinct (l : Lookups) : Prop := (l.tracked.map (·.1)).Nodup

def awaited (l : Lookups) : List Ticket := l.tracked.map fun m => ⟨m.1, m.2, l.epoch⟩

/-- A cell waits for one answer, so two tickets for it that count are the same. -/
theorem eq_of_isCurrent
    {u : Ticket} (ht : l.isCurrent t = true) (hu : l.isCurrent u = true)
    (hsame : t.target = u.target) : t = u := by
  obtain ⟨htepoch, htsequence⟩ := isCurrent_iff.1 ht
  obtain ⟨huepoch, husequence⟩ := isCurrent_iff.1 hu
  have hsequence : t.sequence = u.sequence := by
    rw [hsame, husequence] at htsequence
    exact (Option.some.inj htsequence).symm
  obtain ⟨target, sequence, epoch⟩ := t
  obtain ⟨target', sequence', epoch'⟩ := u
  simp only at hsame hsequence htepoch huepoch
  rw [hsame, hsequence, htepoch, huepoch]

theorem isTracked_iff :
    l.isTracked target = true ↔ ∃ t, l.isCurrent t = true ∧ t.target = target := by
  unfold isTracked
  rw [Option.isSome_iff_exists]
  constructor
  · rintro ⟨sequence, hsequence⟩
    exact ⟨⟨target, sequence, l.epoch⟩, isCurrent_iff.2 ⟨rfl, hsequence⟩, rfl⟩
  · rintro ⟨t, hcurrent, rfl⟩
    exact ⟨t.sequence, (isCurrent_iff.1 hcurrent).2⟩

theorem length_awaited (l : Lookups) : l.awaited.length = l.pending := by
  simp [awaited, pending]

theorem Distinct.sequence?_eq_some_iff (hl : l.Distinct) {n : Nat} :
    l.sequence? target = some n ↔ (target, n) ∈ l.tracked := by
  unfold sequence?
  constructor
  · intro hlookup
    obtain ⟨before, after, hsplit, -⟩ := List.lookup_eq_some_iff.1 hlookup
    rw [hsplit]
    exact List.mem_append_right before (List.mem_cons_self ..)
  · intro hmem
    obtain ⟨before, after, hsplit⟩ := List.append_of_mem hmem
    refine List.lookup_eq_some_iff.2 ⟨before, after, hsplit, ?_⟩
    intro m hm
    unfold Distinct at hl
    rw [hsplit, List.map_append, List.map_cons, List.nodup_append] at hl
    have hother : m.1 ≠ target :=
      hl.2.2 m.1 (List.mem_map_of_mem hm) target (List.mem_cons_self ..)
    simpa using hother.symm

theorem Distinct.mem_awaited_iff (hl : l.Distinct) :
    t ∈ l.awaited ↔ l.isCurrent t = true := by
  rw [isCurrent_iff, hl.sequence?_eq_some_iff, awaited, List.mem_map]
  constructor
  · rintro ⟨m, hm, rfl⟩
    exact ⟨rfl, hm⟩
  · rintro ⟨hepoch, hm⟩
    exact ⟨(t.target, t.sequence), hm, by rw [← hepoch]⟩

theorem Distinct.nodup_awaited (hl : l.Distinct) : l.awaited.Nodup := by
  have htargets : l.awaited.map (·.target) = l.tracked.map (·.1) := by
    simp [awaited, Function.comp_def]
  refine List.Nodup.of_map (·.target) ?_
  rw [htargets]
  exact hl

/-! ## Tickets that are taken away -/

/-- What happens to the lookups under way when no ticket is handed out. -/
inductive Loses (l : Lookups) : Lookups → Prop where
  | nothing : l.Loses l
  | one (t : Ticket) : l.Loses (l.retire t)
  | all : l.Loses l.invalidateAll
  | columns (keep : String → Bool) : l.Loses (l.retain keep)

theorem Loses.extends (hnext : l.Loses next) : l.Extends next := by
  cases hnext with
  | nothing => exact Extends.refl l
  | one t => exact l.extends_retire t
  | all => exact l.extends_invalidateAll
  | columns keep => exact l.extends_retain keep

theorem Loses.isCurrent (hnext : l.Loses next) (ht : next.isCurrent t = true) :
    l.isCurrent t = true := by
  cases hnext with
  | nothing => exact ht
  | one u => exact (isCurrent_retire.1 ht).1
  | all =>
      rw [isCurrent_invalidateAll] at ht
      cases ht
  | columns keep => exact ((isCurrent_retain keep).1 ht).1

theorem Distinct.forget (hl : l.Distinct) (target : Target) : (l.forget target).Distinct :=
  List.Nodup.sublist (List.filter_sublist.map _) hl

theorem Distinct.loses (hl : l.Distinct) (hnext : l.Loses next) : next.Distinct := by
  cases hnext with
  | nothing => exact hl
  | one t =>
      unfold retire
      split
      · exact hl.forget t.target
      · exact hl
  | all => exact List.nodup_nil
  | columns keep => exact List.Nodup.sublist (List.filter_sublist.map _) hl

/-- Uses up tickets, one after the other. -/
def retireAll (tickets : List Ticket) (l : Lookups) : Lookups := tickets.foldl retire l

/-- Using up a ticket that counts leaves one cell less that waits. -/
theorem Distinct.pending_retire (hl : l.Distinct) (hcurrent : l.isCurrent t = true) :
    (l.retire t).pending + 1 = l.pending := by
  have hsequence := (isCurrent_iff.1 hcurrent).2
  have hmem : t.target ∈ l.tracked.map (·.1) :=
    List.mem_map_of_mem (hl.sequence?_eq_some_iff.1 hsequence)
  have htargets : (l.forget t.target).tracked.map (·.1) =
      (l.tracked.map (·.1)).erase t.target := by
    rw [hl.erase_eq_filter, List.filter_map, Lookups.forget]
    refine congrArg _ (List.filter_congr fun m _ => ?_)
    rw [Bool.eq_iff_iff]
    simp
  have hlength := congrArg List.length htargets
  rw [List.length_erase_of_mem hmem, List.length_map, List.length_map] at hlength
  have hpositive := List.length_pos_of_mem hmem
  rw [List.length_map] at hpositive
  rw [retire_of_current hcurrent, pending, pending]
  omega

theorem Distinct.pending_retireAll
    (hl : l.Distinct) {tickets : List Ticket} (hnodup : tickets.Nodup)
    (hcurrent : ∀ t ∈ tickets, l.isCurrent t = true) :
    (l.retireAll tickets).pending + tickets.length = l.pending := by
  induction tickets generalizing l with
  | nil => rfl
  | cons t rest ih =>
      rw [List.nodup_cons] at hnodup
      rw [List.forall_mem_cons] at hcurrent
      have hstill : ∀ u ∈ rest, (l.retire t).isCurrent u = true := by
        intro u hu
        refine isCurrent_retire.2 ⟨hcurrent.2 u hu, ?_⟩
        rintro rfl
        exact hnodup.1 hu
      have hone := hl.pending_retire hcurrent.1
      have hothers := ih (hl.loses (.one t)) hnodup.2 hstill
      rw [List.length_cons, ← hone, ← hothers]
      rfl

/-! ## Tickets that an edit hands out -/

theorem Distinct.advance (hl : l.Distinct) (target : Target) : (l.advance target).Distinct := by
  have hgone : target ∉ (l.forget target).tracked.map (·.1) := by
    simp [Lookups.forget]
  exact List.nodup_cons.2 ⟨hgone, hl.forget target⟩

theorem Distinct.supersede (hl : l.Distinct) (target : Target) :
    (l.supersede target).Distinct := by
  unfold Lookups.supersede
  split
  · exact hl.advance target
  · exact hl

/-- After a cell gets a new number, the ticket with that number is awaited, and
the tickets for other cells are as they were. -/
theorem of_isCurrent_advance (ht : (l.advance target).isCurrent t = true) :
    t = (l.issue target).1 ∨ (l.isCurrent t = true ∧ t.target ≠ target) := by
  obtain ⟨hepoch, hsequence⟩ := isCurrent_iff.1 ht
  rw [sequence?_advance] at hsequence
  by_cases hsame : t.target = target
  · rw [if_pos hsame] at hsequence
    obtain ⟨target', sequence, epoch⟩ := t
    have hnumber : l.issued + 1 = sequence := Option.some.inj hsequence
    left
    simp only at hsame hepoch
    rw [hsame, hepoch, ← hnumber]
    rfl
  · rw [if_neg hsame] at hsequence
    exact .inr ⟨isCurrent_iff.2 ⟨hepoch, hsequence⟩, hsame⟩

theorem of_isCurrent_supersede (ht : (l.supersede target).isCurrent t = true) :
    l.isCurrent t = true ∨ (l.isTracked target = true ∧ t.target = target) := by
  unfold Lookups.supersede at ht
  split at ht
  · rename_i htracked
    rcases of_isCurrent_advance ht with rfl | hother
    · exact .inr ⟨htracked, rfl⟩
    · exact .inl hother.1
  · exact .inl ht

section Plan

variable {row : Nat} {sourceField : String} {value : Json} {columns : List Column}

theorem Distinct.plan (hl : l.Distinct) : (plan row sourceField value columns l).2.Distinct := by
  induction columns generalizing l with
  | nil => exact hl
  | cons c rest ih =>
      rcases plan_cons row sourceField value c rest l with hskip | ⟨endpoint, hissue⟩
      · rw [hskip]
        exact ih hl
      · rw [hissue]
        exact ih (hl.advance _)

theorem of_isCurrent_plan
    (ht : (plan row sourceField value columns l).2.isCurrent t = true) :
    t ∈ (plan row sourceField value columns l).1.map (·.ticket) ∨
      (l.isCurrent t = true ∧
        ∀ u ∈ (plan row sourceField value columns l).1.map (·.ticket), u.target ≠ t.target) := by
  induction columns generalizing l with
  | nil => exact .inr ⟨ht, by simp [Lookups.plan]⟩
  | cons c rest ih =>
      rcases plan_cons row sourceField value c rest l with hskip | ⟨endpoint, hissue⟩
      · rw [hskip] at ht ⊢
        exact ih ht
      · rw [hissue] at ht ⊢
        rw [List.map_cons, List.forall_mem_cons]
        rcases ih ht with hlater | ⟨hadvanced, hnone⟩
        · exact .inl (List.mem_cons_of_mem _ hlater)
        · rcases of_isCurrent_advance hadvanced with rfl | ⟨hcurrent, hother⟩
          · exact .inl (List.mem_cons_self ..)
          · exact .inr ⟨hcurrent, hother.symm, hnone⟩

theorem issued_lt_of_mem_plan
    {u : Ticket} (hu : u ∈ (plan row sourceField value columns l).1.map (·.ticket)) :
    l.issued < u.sequence := by
  induction columns generalizing l with
  | nil => simp [Lookups.plan] at hu
  | cons c rest ih =>
      rcases plan_cons row sourceField value c rest l with hskip | ⟨endpoint, hissue⟩
      · rw [hskip] at hu
        exact ih hu
      · rw [hissue, List.map_cons] at hu
        rcases List.mem_cons.1 hu with rfl | hlater
        · exact Nat.lt_succ_self _
        · have hstep : l.issued < (l.advance ⟨row, c.fieldId⟩).issued := Nat.lt_succ_self _
          exact Nat.lt_trans hstep (ih hlater)

theorem nodup_tickets_plan :
    ((plan row sourceField value columns l).1.map (·.ticket)).Nodup := by
  induction columns generalizing l with
  | nil => simp [Lookups.plan]
  | cons c rest ih =>
      rcases plan_cons row sourceField value c rest l with hskip | ⟨endpoint, hissue⟩
      · rw [hskip]
        exact ih
      · rw [hissue, List.map_cons, List.nodup_cons]
        refine ⟨?_, ih⟩
        -- later tickets have greater numbers
        intro hagain
        have hgreater := issued_lt_of_mem_plan hagain
        exact Nat.lt_irrefl _ hgreater

end Plan

end Lookups
end RecordGrid
