import RecordGrid.Proofs.Lookup.Requests

/-!
# What makes a ticket outdated

A ticket that has been issued carries an epoch and a sequence number that lie
behind those to come.  So whatever gives a cell a new number, or starts a new
epoch, outdates the tickets there are, and no operation brings one back.
-/

namespace RecordGrid
namespace Lookups

variable {l : Lookups} {t u : Ticket} {target : Target}

theorem isCurrent_iff :
    l.isCurrent t = true ↔ t.epoch = l.epoch ∧ l.sequence? t.target = some t.sequence := by
  simp [isCurrent]

/-- The ticket is one of those issued so far. -/
structure Knows (l : Lookups) (t : Ticket) : Prop where
  epoch : t.epoch ≤ l.epoch
  sequence : t.sequence ≤ l.issued

/-- The tickets there are stay known. -/
structure Extends (l later : Lookups) : Prop where
  epoch : l.epoch ≤ later.epoch
  issued : l.issued ≤ later.issued

theorem Extends.refl (l : Lookups) : l.Extends l := ⟨Nat.le_refl _, Nat.le_refl _⟩

theorem Extends.trans
    {later last : Lookups} (hlater : l.Extends later) (hlast : later.Extends last) :
    l.Extends last :=
  ⟨Nat.le_trans hlater.epoch hlast.epoch, Nat.le_trans hlater.issued hlast.issued⟩

theorem Knows.extend
    {later : Lookups} (ht : l.Knows t) (hlater : l.Extends later) : later.Knows t :=
  ⟨Nat.le_trans ht.epoch hlater.epoch, Nat.le_trans ht.sequence hlater.issued⟩

/-! ## Operations on single cells -/

theorem extends_advance (l : Lookups) (target : Target) : l.Extends (l.advance target) :=
  ⟨Nat.le_refl _, Nat.le_succ _⟩

theorem extends_supersede (l : Lookups) (target : Target) : l.Extends (l.supersede target) := by
  unfold supersede
  split
  · exact l.extends_advance target
  · exact Extends.refl l

theorem extends_retire (l : Lookups) (t : Ticket) : l.Extends (l.retire t) := by
  unfold retire
  split
  · exact ⟨Nat.le_refl _, Nat.le_refl _⟩
  · exact Extends.refl l

theorem knows_issue (l : Lookups) (target : Target) :
    (l.issue target).2.Knows (l.issue target).1 :=
  ⟨Nat.le_refl _, Nat.le_refl _⟩

theorem retire_of_current (hcurrent : l.isCurrent t = true) : l.retire t = l.forget t.target := by
  rw [retire, if_pos hcurrent]

theorem retire_of_not_current (hcurrent : l.isCurrent t = false) : l.retire t = l := by
  simp [retire, hcurrent]

/-- A new number for a cell outdates the tickets for it. -/
theorem isCurrent_advance
    (ht : l.Knows t) (target : Target) :
    (l.advance target).isCurrent t = true ↔ l.isCurrent t = true ∧ target ≠ t.target := by
  have hsequence := ht.sequence
  rw [isCurrent_iff, isCurrent_iff, sequence?_advance]
  have hepoch : (l.advance target).epoch = l.epoch := rfl
  rw [hepoch]
  by_cases hsame : t.target = target
  · have hnever : l.issued + 1 ≠ t.sequence := by omega
    simp [hsame, hnever]
  · simp [hsame, Ne.symm hsame]

theorem isCurrent_supersede
    (ht : l.Knows t) (target : Target) :
    (l.supersede target).isCurrent t = true ↔ l.isCurrent t = true ∧ target ≠ t.target := by
  unfold supersede
  split
  · exact isCurrent_advance ht target
  · rename_i huntracked
    refine ⟨fun hcurrent => ⟨hcurrent, ?_⟩, fun h => h.1⟩
    rintro rfl
    simp [isTracked, (isCurrent_iff.1 hcurrent).2] at huntracked

/-- Among the tickets that are current, only the one that is used up goes. -/
theorem isCurrent_retire :
    (l.retire u).isCurrent t = true ↔ l.isCurrent t = true ∧ u ≠ t := by
  constructor
  · intro hcurrent
    refine ⟨?_, ?_⟩
    · unfold retire at hcurrent
      split at hcurrent
      · rw [isCurrent_iff, sequence?_forget] at hcurrent
        rw [isCurrent_iff]
        refine ⟨hcurrent.1, ?_⟩
        have hkept := hcurrent.2
        split at hkept
        · cases hkept
        · exact hkept
      · exact hcurrent
    · rintro rfl
      rw [not_isCurrent_retire] at hcurrent
      cases hcurrent
  · rintro ⟨hcurrent, hother⟩
    unfold retire
    split
    · rename_i hused
      have ht := isCurrent_iff.1 hcurrent
      have hu := isCurrent_iff.1 hused
      -- two current tickets for one cell are the same ticket
      have htarget : t.target ≠ u.target := by
        intro hsame
        rw [hsame, hu.2] at ht
        obtain ⟨target, sequence, epoch⟩ := t
        obtain ⟨target', sequence', epoch'⟩ := u
        simp only [Option.some.injEq] at ht hsame hu
        exact hother (by rw [hsame, ht.2, hu.1, ht.1])
      rw [isCurrent_iff, sequence?_forget, if_neg htarget]
      exact ht
    · exact hcurrent

/-! ## Operations on all cells -/

theorem extends_invalidateAll (l : Lookups) : l.Extends l.invalidateAll :=
  ⟨Nat.le_succ _, Nat.le_refl _⟩

theorem extends_retain (l : Lookups) (keep : String → Bool) : l.Extends (l.retain keep) :=
  ⟨Nat.le_refl _, Nat.le_refl _⟩

theorem isCurrent_invalidateAll (l : Lookups) (t : Ticket) :
    l.invalidateAll.isCurrent t = false := by
  simp [isCurrent]

theorem isCurrent_retain (keep : String → Bool) :
    (l.retain keep).isCurrent t = true ↔
      l.isCurrent t = true ∧ keep t.target.fieldId = true := by
  have hepoch : (l.retain keep).epoch = l.epoch := rfl
  rw [isCurrent_iff, isCurrent_iff, sequence?_retain, hepoch]
  cases keep t.target.fieldId <;> simp

/-! ## The lookups of an edit -/

section Plan

variable {row : Nat} {sourceField : String} {value : Json}

/-- A column is passed over, or gets the first of the requests. -/
theorem plan_cons
    (row : Nat) (sourceField : String) (value : Json)
    (c : Column) (rest : List Column) (l : Lookups) :
    plan row sourceField value (c :: rest) l = plan row sourceField value rest l ∨
    ∃ endpoint,
      plan row sourceField value (c :: rest) l =
        (⟨(l.issue ⟨row, c.fieldId⟩).1, endpoint, sourceField, value.queryText⟩ ::
            (plan row sourceField value rest (l.advance ⟨row, c.fieldId⟩)).1,
          (plan row sourceField value rest (l.advance ⟨row, c.fieldId⟩)).2) := by
  cases hbound : c.isEnrichedFrom sourceField with
  | false => exact .inl (plan_cons_of_unbound hbound rest l)
  | true =>
      obtain ⟨-, endpoint, hendpoint⟩ := Column.isEnrichedFrom_iff.1 hbound
      exact .inr ⟨endpoint, plan_cons_of_bound hbound hendpoint rest l⟩

theorem extends_plan (columns : List Column) (l : Lookups) :
    l.Extends (plan row sourceField value columns l).2 := by
  induction columns generalizing l with
  | nil => exact Extends.refl l
  | cons c rest ih =>
      rcases plan_cons row sourceField value c rest l with hskip | ⟨endpoint, hissue⟩
      · rw [hskip]
        exact ih l
      · rw [hissue]
        exact (l.extends_advance _).trans (ih _)

/-- The tickets for which a lookup is started anew are outdated, and no other. -/
theorem isCurrent_plan
    (columns : List Column) (ht : l.Knows t) :
    (plan row sourceField value columns l).2.isCurrent t = true ↔
      l.isCurrent t = true ∧
        ∀ r ∈ (plan row sourceField value columns l).1, r.ticket.target ≠ t.target := by
  induction columns generalizing l with
  | nil => simp [plan]
  | cons c rest ih =>
      rcases plan_cons row sourceField value c rest l with hskip | ⟨endpoint, hissue⟩
      · rw [hskip]
        exact ih ht
      · rw [hissue, ih (ht.extend (l.extends_advance _)), isCurrent_advance ht]
        simp only [issue, List.forall_mem_cons, and_assoc]

/-- A request is for a column of the record, and its ticket is known. -/
theorem of_mem_plan
    {columns : List Column} {r : Request}
    (hr : r ∈ (plan row sourceField value columns l).1) :
    (plan row sourceField value columns l).2.Knows r.ticket ∧
      ∃ c ∈ columns, r.ticket.target = ⟨row, c.fieldId⟩ := by
  induction columns generalizing l with
  | nil => simp [plan] at hr
  | cons c rest ih =>
      rcases plan_cons row sourceField value c rest l with hskip | ⟨endpoint, hissue⟩
      · rw [hskip] at hr ⊢
        obtain ⟨hknown, d, hd, htarget⟩ := ih hr
        exact ⟨hknown, d, List.mem_cons_of_mem c hd, htarget⟩
      · rw [hissue] at hr ⊢
        rcases List.mem_cons.1 hr with rfl | hr
        · exact ⟨(l.knows_issue _).extend (extends_plan rest _), c, List.mem_cons_self .., rfl⟩
        · obtain ⟨hknown, d, hd, htarget⟩ := ih hr
          exact ⟨hknown, d, List.mem_cons_of_mem c hd, htarget⟩

/-- With columns told apart by their ids, no request outdates another. -/
theorem isCurrent_of_mem_plan
    {columns : List Column} (hdistinct : (columns.map (·.fieldId)).Nodup) {r : Request}
    (hr : r ∈ (plan row sourceField value columns l).1) :
    (plan row sourceField value columns l).2.isCurrent r.ticket = true := by
  induction columns generalizing l with
  | nil => simp [plan] at hr
  | cons c rest ih =>
      rw [List.map_cons, List.nodup_cons] at hdistinct
      rcases plan_cons row sourceField value c rest l with hskip | ⟨endpoint, hissue⟩
      · rw [hskip] at hr ⊢
        exact ih hdistinct.2 hr
      · rw [hissue] at hr ⊢
        rcases List.mem_cons.1 hr with rfl | hr
        · refine (isCurrent_plan rest (l.knows_issue _)).2 ⟨l.isCurrent_issue _, ?_⟩
          intro later hlater
          obtain ⟨-, d, hd, htarget⟩ := of_mem_plan hlater
          rw [htarget]
          intro hsame
          have hid : d.fieldId = c.fieldId := congrArg Target.fieldId hsame
          exact hdistinct.1 (hid ▸ List.mem_map_of_mem hd)
        · exact ih hdistinct.2 hr

end Plan

/-! ## Cells that wait for an answer -/

/-- Every cell that waits for an answer is one of some cells. -/
def Within (there : Target → Prop) (l : Lookups) : Prop :=
  ∀ target sequence, l.sequence? target = some sequence → there target

variable {there : Target → Prop}

theorem within_invalidateAll (there : Target → Prop) (l : Lookups) :
    l.invalidateAll.Within there := by
  intro target sequence hsequence
  cases hsequence

theorem Within.mono
    {more : Target → Prop} (hl : l.Within there) (hmore : ∀ target, there target → more target) :
    l.Within more :=
  fun target sequence hsequence => hmore target (hl target sequence hsequence)

theorem Within.forget (hl : l.Within there) (target : Target) : (l.forget target).Within there := by
  intro other sequence hsequence
  rw [sequence?_forget] at hsequence
  split at hsequence
  · cases hsequence
  · exact hl other sequence hsequence

theorem Within.retire (hl : l.Within there) (t : Ticket) : (l.retire t).Within there := by
  unfold Lookups.retire
  split
  · exact hl.forget t.target
  · exact hl

theorem Within.advance
    (hl : l.Within there) {target : Target} (htarget : there target) :
    (l.advance target).Within there := by
  intro other sequence hsequence
  rw [sequence?_advance] at hsequence
  split at hsequence
  · rename_i hsame
    rw [hsame]
    exact htarget
  · exact hl other sequence hsequence

theorem Within.supersede
    (hl : l.Within there) {target : Target} (htarget : there target) :
    (l.supersede target).Within there := by
  unfold Lookups.supersede
  split
  · exact hl.advance htarget
  · exact hl

theorem Within.retain
    (hl : l.Within there) (keep : String → Bool) :
    (l.retain keep).Within fun target => there target ∧ keep target.fieldId = true := by
  intro target sequence hsequence
  rw [sequence?_retain] at hsequence
  split at hsequence
  · rename_i hkept
    exact ⟨hl target sequence hsequence, hkept⟩
  · cases hsequence

theorem Within.plan
    (hl : l.Within there) {row : Nat} (sourceField : String) (value : Json)
    {columns : List Column} (hcolumns : ∀ c ∈ columns, there ⟨row, c.fieldId⟩) :
    (plan row sourceField value columns l).2.Within there := by
  induction columns generalizing l with
  | nil => exact hl
  | cons c rest ih =>
      rw [List.forall_mem_cons] at hcolumns
      rcases plan_cons row sourceField value c rest l with hskip | ⟨endpoint, hissue⟩
      · rw [hskip]
        exact ih hl hcolumns.2
      · rw [hissue]
        exact ih (hl.advance hcolumns.1) hcolumns.2

end Lookups
end RecordGrid
