import RecordGrid.Json.Record

/-!
# Tickets for lookups

An answer to a lookup may come late and out of order.  Every lookup has a
ticket, and its answer counts only while the ticket is current: it is the last
one issued for its cell, nothing has been entered there since, and no record
has been renumbered.
-/

namespace RecordGrid

/-- The cell that an answer goes to. -/
structure Target where
  row : Nat
  fieldId : String
deriving DecidableEq, Repr

structure Ticket where
  target : Target
  sequence : Nat
  epoch : Nat
deriving DecidableEq, Repr

namespace Ticket

def ofJson? (j : Json) : Option Ticket := do
  let r ← Json.record? ["row", "field_id", "sequence", "epoch"] j
  let row ← Json.required r "row" Json.asCount?
  let fieldId ← Json.required r "field_id" Json.asStr?
  let sequence ← Json.required r "sequence" Json.asCount?
  let epoch ← Json.required r "epoch" Json.asCount?
  some ⟨⟨row, fieldId⟩, sequence, epoch⟩

def toJson (t : Ticket) : Json :=
  .obj
    [("row", .int t.target.row), ("field_id", .str t.target.fieldId),
      ("sequence", .int t.sequence), ("epoch", .int t.epoch)]

end Ticket

/-- The lookups under way: the last sequence number of every cell that waits
for an answer. -/
structure Lookups where
  epoch : Nat := 0
  /-- How many sequence numbers have been given out. -/
  issued : Nat := 0
  tracked : List (Target × Nat) := []

namespace Lookups

/-- The sequence number that the answer for a cell has to have. -/
def sequence? (l : Lookups) (t : Target) : Option Nat := l.tracked.lookup t

def isTracked (l : Lookups) (t : Target) : Bool := (l.sequence? t).isSome

/-- No longer waits for an answer for a cell. -/
def forget (l : Lookups) (t : Target) : Lookups :=
  { l with tracked := l.tracked.filter fun m => m.1 ≠ t }

/-- Gives the next sequence number to a cell. -/
def advance (l : Lookups) (t : Target) : Lookups :=
  { l with
    issued := l.issued + 1
    tracked := (t, l.issued + 1) :: (l.forget t).tracked }

/-- A new ticket for a cell, in the place of any earlier one. -/
def issue (l : Lookups) (t : Target) : Ticket × Lookups :=
  (⟨t, l.issued + 1, l.epoch⟩, l.advance t)

/-- Something was entered into a cell: an answer it waits for no longer counts. -/
def supersede (l : Lookups) (t : Target) : Lookups :=
  if l.isTracked t then l.advance t else l

/-- Whether the answer for a ticket still counts. -/
def isCurrent (l : Lookups) (t : Ticket) : Bool :=
  t.epoch == l.epoch && l.sequence? t.target == some t.sequence

/-- Uses up a ticket. -/
def retire (l : Lookups) (t : Ticket) : Lookups :=
  if l.isCurrent t then l.forget t.target else l

/-- No ticket issued so far counts any longer. -/
def invalidateAll (l : Lookups) : Lookups := { l with epoch := l.epoch + 1, tracked := [] }

/-- Keeps only the cells of some columns. -/
def retain (l : Lookups) (keep : String → Bool) : Lookups :=
  { l with tracked := l.tracked.filter fun m => keep m.1.fieldId }

def pending (l : Lookups) : Nat := l.tracked.length

/-! ## The sequence number that counts, after each operation -/

theorem lookup_filter (tracked : List (Target × Nat)) (keep : Target → Bool) (t : Target) :
    (tracked.filter fun m => keep m.1).lookup t = if keep t then tracked.lookup t else none := by
  induction tracked with
  | nil => simp
  | cons m rest ih =>
      obtain ⟨u, n⟩ := m
      by_cases hu : t = u
      · subst hu
        cases hk : keep t with
        | true => simp [hk]
        | false => simpa [List.lookup_cons, hk] using ih
      · have hne : (t == u) = false := by simpa using hu
        cases hk : keep u with
        | true => simpa [List.lookup_cons, hk, hne] using ih
        | false => simpa [List.lookup_cons, hk, hne] using ih

@[simp] theorem sequence?_forget (l : Lookups) (t u : Target) :
    (l.forget t).sequence? u = if u = t then none else l.sequence? u := by
  have h := lookup_filter l.tracked (fun v => decide (v ≠ t)) u
  by_cases hu : u = t
  · simpa [forget, sequence?, hu] using h
  · simpa [forget, sequence?, hu] using h

@[simp] theorem sequence?_advance (l : Lookups) (t u : Target) :
    (l.advance t).sequence? u = if u = t then some (l.issued + 1) else l.sequence? u := by
  by_cases hu : u = t
  · subst hu
    simp [advance, sequence?]
  · have hne : (u == t) = false := by simpa using hu
    have h := sequence?_forget l t u
    simp only [sequence?, hu, if_false] at h ⊢
    simp [advance, List.lookup_cons, hne, h]

@[simp] theorem sequence?_retain (l : Lookups) (keep : String → Bool) (t : Target) :
    (l.retain keep).sequence? t = if keep t.fieldId then l.sequence? t else none :=
  lookup_filter l.tracked (fun u => keep u.fieldId) t

@[simp] theorem sequence?_invalidateAll (l : Lookups) (t : Target) :
    l.invalidateAll.sequence? t = none := rfl

theorem isCurrent_issue (l : Lookups) (t : Target) : (l.issue t).2.isCurrent (l.issue t).1 := by
  have hepoch : (l.advance t).epoch = l.epoch := rfl
  simp [issue, isCurrent, hepoch]

theorem not_isCurrent_retire (l : Lookups) (t : Ticket) : (l.retire t).isCurrent t = false := by
  unfold retire
  split
  · simp [isCurrent]
  · next h => simpa using h

end Lookups

end RecordGrid
