import Mathlib.Data.List.Perm.Basic
import RecordGrid.Proofs.Keyed
import RecordGrid.Proofs.Store.Issued

/-!
# Answers in any order

Answers to different lookups may come in any order.  Of several tickets for a
cell one counts at most, so no two answers are written into the same cell, and
none of them changes whether another counts.
-/

namespace RecordGrid

namespace Lookups

variable {l : Lookups} {t u : Ticket}

theorem isCurrent_retire_of_ne (hne : u ≠ t) : (l.retire u).isCurrent t = l.isCurrent t := by
  rw [Bool.eq_iff_iff, isCurrent_retire]
  exact and_iff_left hne

theorem forget_comm (l : Lookups) (a b : Target) :
    (l.forget a).forget b = (l.forget b).forget a := by
  simp only [forget, List.filter_filter, Bool.and_comm]

theorem retire_comm (l : Lookups) (t u : Ticket) :
    (l.retire t).retire u = (l.retire u).retire t := by
  by_cases hsame : t = u
  · rw [hsame]
  · have hu : (l.retire t).isCurrent u = l.isCurrent u := isCurrent_retire_of_ne hsame
    have ht : (l.retire u).isCurrent t = l.isCurrent t := isCurrent_retire_of_ne (Ne.symm hsame)
    cases hcurrent : l.isCurrent t with
    | false =>
        rw [hcurrent] at ht
        rw [retire_of_not_current hcurrent, retire_of_not_current ht]
    | true =>
        rw [hcurrent] at ht
        cases hother : l.isCurrent u with
        | false =>
            rw [hother] at hu
            rw [retire_of_not_current hu, retire_of_not_current hother]
        | true =>
            rw [hother] at hu
            rw [retire_of_current hu, retire_of_current ht, retire_of_current hcurrent,
              retire_of_current hother, forget_comm]

end Lookups

namespace Grid

theorem setCell_comm
    {t u : Target} (hne : t ≠ u) (g : Grid) (v w : Json) :
    (g.setCell t.row t.fieldId v).setCell u.row u.fieldId w =
      (g.setCell u.row u.fieldId w).setCell t.row t.fieldId v := by
  obtain ⟨row, fieldId⟩ := t
  obtain ⟨row', fieldId'⟩ := u
  simp only [setCell]
  by_cases hrow : row = row'
  · subst hrow
    have hfield : fieldId ≠ fieldId' := fun hsame => hne (by rw [hsame])
    have hcomm : Keyed.insert fieldId' w ∘ Keyed.insert fieldId v =
        Keyed.insert fieldId v ∘ Keyed.insert fieldId' w :=
      funext fun record => (Keyed.insert_comm hfield record).symm
    rw [List.modify_modify_eq, List.modify_modify_eq, hcomm]
  · rw [List.modify_modify_ne _ _ _ hrow]

/-- Writes a cell, where there is one to write. -/
def put (g : Grid) : Option (Target × Json) → Grid
  | some (t, value) => g.setCell t.row t.fieldId value
  | none => g

theorem rowCount_put (g : Grid) (written : Option (Target × Json)) :
    (g.put written).rowCount = g.rowCount := by
  cases written with
  | none => rfl
  | some cell => exact g.rowCount_setCell _ _ _

theorem hasColumn_put (g : Grid) (written : Option (Target × Json)) (fieldId : String) :
    (g.put written).hasColumn fieldId = g.hasColumn fieldId := by
  cases written <;> rfl

theorem put_comm
    {first second : Option (Target × Json)}
    (hne : ∀ a ∈ first, ∀ b ∈ second, a.1 ≠ b.1) (g : Grid) :
    (g.put first).put second = (g.put second).put first := by
  cases first with
  | none => rfl
  | some a =>
      cases second with
      | none => rfl
      | some b => exact setCell_comm (hne a rfl b rfl) g a.2 b.2

end Grid

/-- What has come back for a lookup. -/
structure LookupResponse where
  ticket : Ticket
  body : Json

def LookupResponse.delivery (r : LookupResponse) : Store.Operation := .answerLookup r.ticket r.body

namespace Store

variable {s : Store} {a b : LookupResponse}

/-- What the operations of a run tell whoever asked for them. -/
def replies : List Operation → Store → List Reply
  | [], _ => []
  | op :: rest, s => (s.step op).reply :: replies rest (s.step op).store

/-- The cell that a response fills, and the value it puts there, where the
response has a value and its ticket counts. -/
def filled? (s : Store) (r : LookupResponse) : Option (Target × Json) :=
  if s.accepts r.ticket then r.body.lookupAnswer?.map fun value => (r.ticket.target, value)
  else none

theorem of_mem_filled? {cell : Target × Json} (hcell : cell ∈ s.filled? a) :
    s.accepts a.ticket = true ∧ cell.1 = a.ticket.target := by
  unfold filled? at hcell
  split at hcell
  · rename_i haccepts
    obtain ⟨value, -, rfl⟩ := Option.map_eq_some_iff.1 hcell
    exact ⟨haccepts, rfl⟩
  · cases hcell

theorem isSome_filled? (s : Store) (r : LookupResponse) :
    (s.filled? r).isSome = (s.accepts r.ticket && r.body.lookupAnswer?.isSome) := by
  unfold filled?
  split <;> simp [*]

/-- The ticket of a response is used up, whether or not its value is written. -/
theorem store_applyLookup (s : Store) (t : Ticket) (value : Json) :
    (s.applyLookup t value).store =
      { s with
        lookups := s.lookups.retire t
        grid := s.grid.put (if s.accepts t then some (t.target, value) else none) } := by
  cases haccepts : s.accepts t with
  | true =>
      obtain ⟨hcurrent, hthere⟩ := accepts_iff.1 haccepts
      rw [applyLookup_of_current hcurrent hthere]
      rfl
  | false =>
      cases hcurrent : s.lookups.isCurrent t with
      | false =>
          rw [applyLookup_of_not_current hcurrent, Lookups.retire_of_not_current hcurrent]
          rfl
      | true =>
          rw [applyLookup_of_missing hcurrent (missing_of_refused haccepts hcurrent)]
          rfl

theorem store_delivery (s : Store) (r : LookupResponse) :
    (s.step r.delivery).store =
      { s with lookups := s.lookups.retire r.ticket, grid := s.grid.put (s.filled? r) } := by
  simp only [LookupResponse.delivery, step, answerLookup, filled?]
  cases r.body.lookupAnswer? with
  | none => simp only [Option.map_none, ite_self]; rfl
  | some value => exact s.store_applyLookup r.ticket value

theorem reply_delivery (s : Store) (r : LookupResponse) :
    (s.step r.delivery).reply = .flag (s.filled? r).isSome := by
  rw [isSome_filled?]
  simp only [LookupResponse.delivery, step, answerLookup]
  cases r.body.lookupAnswer? with
  | none => simp
  | some value =>
      have hreply := s.reply_applyLookup r.ticket value
      simpa only [step, Option.isSome_some, Bool.and_true] using hreply

/-! ## Two responses -/

/-- Whether a ticket counts does not depend on the answers to other lookups. -/
theorem accepts_delivery {t : Ticket} (hne : a.ticket ≠ t) :
    (s.step a.delivery).store.accepts t = s.accepts t := by
  rw [store_delivery]
  simp only [accepts, Lookups.isCurrent_retire_of_ne hne, Grid.rowCount_put, Grid.hasColumn_put]

theorem filled?_delivery (hne : a.ticket ≠ b.ticket) :
    (s.step a.delivery).store.filled? b = s.filled? b := by
  rw [filled?, filled?, accepts_delivery hne]

/-- Two responses are never written into the same cell. -/
theorem target_ne_of_filled?
    (hne : a.ticket ≠ b.ticket) {first second : Target × Json}
    (hfirst : first ∈ s.filled? a) (hsecond : second ∈ s.filled? b) :
    first.1 ≠ second.1 := by
  obtain ⟨ha, htarget⟩ := of_mem_filled? hfirst
  obtain ⟨hb, htarget'⟩ := of_mem_filled? hsecond
  rw [htarget, htarget']
  intro hsame
  exact hne (Lookups.eq_of_isCurrent (accepts_iff.1 ha).1 (accepts_iff.1 hb).1 hsame)

theorem store_two_deliveries (s : Store) (hne : a.ticket ≠ b.ticket) :
    ((s.step a.delivery).store.step b.delivery).store =
      { s with
        lookups := (s.lookups.retire a.ticket).retire b.ticket
        grid := (s.grid.put (s.filled? a)).put (s.filled? b) } := by
  rw [store_delivery (s.step a.delivery).store b, filled?_delivery hne, store_delivery s a]

theorem step_delivery_comm (s : Store) (hne : a.ticket ≠ b.ticket) :
    ((s.step a.delivery).store.step b.delivery).store =
      ((s.step b.delivery).store.step a.delivery).store := by
  have hput : (s.grid.put (s.filled? a)).put (s.filled? b) =
      (s.grid.put (s.filled? b)).put (s.filled? a) :=
    Grid.put_comm (fun _ hfirst _ hsecond => target_ne_of_filled? hne hfirst hsecond) s.grid
  rw [store_two_deliveries s hne, store_two_deliveries s (Ne.symm hne), hput,
    Lookups.retire_comm]

/-! ## Any number of responses -/

variable {first second : List LookupResponse}

theorem run_deliveries (s : Store) (responses : List LookupResponse) :
    s.run (responses.map LookupResponse.delivery) =
      responses.foldl (fun s r => (s.step r.delivery).store) s := by
  rw [run, List.foldl_map]

/-- What is told of a response does not depend on those that came before. -/
theorem replies_deliveries
    (s : Store) {responses : List LookupResponse} (hdistinct : (responses.map (·.ticket)).Nodup) :
    s.replies (responses.map LookupResponse.delivery) =
      responses.map fun r => .flag (s.accepts r.ticket && r.body.lookupAnswer?.isSome) := by
  induction responses generalizing s with
  | nil => rfl
  | cons r rest ih =>
      rw [List.map_cons, List.nodup_cons] at hdistinct
      have hlater : ∀ later ∈ rest,
          (s.step r.delivery).store.accepts later.ticket = s.accepts later.ticket := by
        intro later hmem
        refine accepts_delivery fun hsame => hdistinct.1 ?_
        rw [hsame]
        exact List.mem_map_of_mem hmem
      rw [List.map_cons, List.map_cons, replies, reply_delivery, isSome_filled?, ih _ hdistinct.2]
      congr 1
      exact List.map_congr_left fun later hmem => by rw [hlater later hmem]

/-- Responses with tickets of their own lead to the same store in whatever order
they come, with the same grid and as many lookups pending.  Each of them is told
the same in every order: that it was written, if its ticket counted before any
of them came and it has a value. -/
theorem deliveries_in_any_order
    (s : Store) (hperm : first.Perm second) (hdistinct : (first.map (·.ticket)).Nodup) :
    let told := fun r : LookupResponse =>
      Reply.flag (s.accepts r.ticket && r.body.lookupAnswer?.isSome)
    s.run (first.map LookupResponse.delivery) = s.run (second.map LookupResponse.delivery) ∧
      s.replies (first.map LookupResponse.delivery) = first.map told ∧
      s.replies (second.map LookupResponse.delivery) = second.map told := by
  intro told
  have hdistinct' : (second.map (·.ticket)).Nodup := (hperm.map _).nodup_iff.1 hdistinct
  refine ⟨?_, s.replies_deliveries hdistinct, s.replies_deliveries hdistinct'⟩
  rw [run_deliveries, run_deliveries]
  refine hperm.foldl_eq' ?_ s
  intro a ha b hb t
  by_cases hsame : a.ticket = b.ticket
  · rw [List.inj_on_of_nodup_map hdistinct ha hb hsame]
  · exact t.step_delivery_comm hsame

/-- An answer that is overtaken by another lookup for its cell, one without a
value and one that is written, and the same answers the other way round. -/
theorem deliveries_in_any_order_in_sample :
    let s := (ofSchema .builtin .sample).run
      [.updateCell 0 "code" (.str "x"), .updateCell 0 "code" (.str "y"), .edit .addRow,
        .updateCell 1 "code" (.str "z")]
    let responses : List LookupResponse :=
      [⟨⟨⟨0, "name"⟩, 1, 1⟩, .str "X"⟩, ⟨⟨⟨1, "name"⟩, 3, 1⟩, .null⟩,
        ⟨⟨⟨0, "name"⟩, 2, 1⟩, .str "Y"⟩]
    responses.Perm responses.reverse ∧ (responses.map (·.ticket)).Nodup ∧
      s.run (responses.map LookupResponse.delivery) =
        s.run (responses.reverse.map LookupResponse.delivery) ∧
      s.replies (responses.map LookupResponse.delivery) = [.flag false, .flag false, .flag true] ∧
      s.replies (responses.reverse.map LookupResponse.delivery) =
        [.flag true, .flag false, .flag false] := by
  intro s responses
  have hperm : responses.Perm responses.reverse := (List.reverse_perm responses).symm
  have hdistinct : (responses.map (·.ticket)).Nodup := by decide
  obtain ⟨hstore, hreplies, hreplies'⟩ := deliveries_in_any_order s hperm hdistinct
  exact ⟨hperm, hdistinct, hstore, hreplies.trans rfl, hreplies'.trans rfl⟩

end Store
end RecordGrid
