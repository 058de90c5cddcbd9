import RecordGrid.History

/-!
# Going back and forth in a history

The entries of both stacks together never exceed what one stack keeps.  Undo
and redo therefore lose nothing when they move an entry from one to the other.
-/

namespace RecordGrid
namespace History

variable {α : Type} {P : α → Prop} {h next : History α} {current target : α}

/-- The history with its stacks exchanged: redo is undo there. -/
def swap (h : History α) : History α :=
  { h with undoStack := h.redoStack, redoStack := h.undoStack }

theorem swap_undo (hredo : h.redo current = some (target, next)) :
    h.swap.undo current = some (target, next.swap) := by
  unfold History.redo at hredo
  split at hredo
  · cases hredo
  · rename_i e rest hstack
    cases hredo
    simp only [History.undo, swap, hstack]

/-- Every state that undo or redo can come to satisfies a property. -/
structure All (P : α → Prop) (h : History α) : Prop where
  undoable : ∀ e ∈ h.undoStack, P e.state
  redoable : ∀ e ∈ h.redoStack, P e.state

theorem All.clear (h : History α) : h.clear.All P := by
  constructor <;> simp [History.clear]

theorem All.record
    (hall : h.All P) (description : String) (hcurrent : P current) :
    (h.record description current).All P := by
  constructor
  · intro e he
    rcases List.mem_cons.1 (List.mem_of_mem_take he) with rfl | he
    · exact hcurrent
    · exact hall.undoable e he
  · simp [History.record]

theorem All.undo
    (hall : h.All P) (hcurrent : P current) (hundo : h.undo current = some (target, next)) :
    P target ∧ next.All P := by
  unfold History.undo at hundo
  split at hundo
  · cases hundo
  · rename_i e rest hstack
    cases hundo
    have hundoable := hall.undoable
    rw [hstack] at hundoable
    refine ⟨hundoable e (List.mem_cons_self ..), ?_, ?_⟩
    · exact fun e he => hundoable e (List.mem_cons_of_mem _ he)
    · intro e he
      rcases List.mem_cons.1 (List.mem_of_mem_take he) with rfl | he
      · exact hcurrent
      · exact hall.redoable e he

theorem All.swap (hall : h.All P) : h.swap.All P := ⟨hall.redoable, hall.undoable⟩

theorem All.redo
    (hall : h.All P) (hcurrent : P current) (hredo : h.redo current = some (target, next)) :
    P target ∧ next.All P := by
  obtain ⟨htarget, hnext⟩ := hall.swap.undo hcurrent (swap_undo hredo)
  exact ⟨htarget, hnext.swap⟩

/-- One stack has room for the entries of both. -/
structure Fits (h : History α) : Prop where
  positive : 1 ≤ h.limit
  entries : h.undoStack.length + h.redoStack.length ≤ h.limit

theorem fits_empty : Fits ({} : History α) where
  positive := Nat.le_of_ble_eq_true rfl
  entries := Nat.zero_le _

theorem Fits.clear (hfits : h.Fits) : h.clear.Fits where
  positive := hfits.positive
  entries := by simp [History.clear]

theorem Fits.record
    (hfits : h.Fits) (description : String) (current : α) :
    (h.record description current).Fits where
  positive := hfits.positive
  entries := List.length_take_le ..

/-- With room for all entries, undo moves one and keeps the others. -/
theorem Fits.undo_cons
    (hfits : h.Fits) {e : HistoryEntry α} {rest : List (HistoryEntry α)}
    (hstack : h.undoStack = e :: rest) (current : α) :
    h.undo current =
      some (e.state,
        { h with
          undoStack := rest
          redoStack := ⟨e.description, current⟩ :: h.redoStack }) := by
  have hroom := hfits.entries
  rw [hstack, List.length_cons] at hroom
  simp only [History.undo, hstack]
  rw [List.take_of_length_le (by simp only [List.length_cons]; omega)]

theorem Fits.undo_eq
    (hfits : h.Fits) (hundo : h.undo current = some (target, next)) :
    ∃ description rest,
      h.undoStack = ⟨description, target⟩ :: rest ∧
      next =
        { h with undoStack := rest, redoStack := ⟨description, current⟩ :: h.redoStack } := by
  cases hstack : h.undoStack with
  | nil => simp only [History.undo, hstack, reduceCtorEq] at hundo
  | cons e rest =>
      rw [hfits.undo_cons hstack] at hundo
      cases hundo
      exact ⟨e.description, rest, rfl, rfl⟩

theorem Fits.undo (hfits : h.Fits) (hundo : h.undo current = some (target, next)) :
    next.Fits := by
  obtain ⟨description, rest, hstack, rfl⟩ := hfits.undo_eq hundo
  have hroom := hfits.entries
  simp only [hstack, List.length_cons] at hroom
  exact ⟨hfits.positive, by simp only [List.length_cons]; omega⟩

theorem Fits.swap (hfits : h.Fits) : h.swap.Fits where
  positive := hfits.positive
  entries := by
    have hroom := hfits.entries
    simp only [History.swap]
    omega

theorem redo_eq_swap (h : History α) (current : α) :
    h.redo current = (h.swap.undo current).map fun r => (r.1, r.2.swap) := by
  unfold History.redo History.undo swap
  cases h.redoStack <;> rfl

/-- With room for all entries, redo moves one and keeps the others. -/
theorem Fits.redo_cons
    (hfits : h.Fits) {e : HistoryEntry α} {rest : List (HistoryEntry α)}
    (hstack : h.redoStack = e :: rest) (current : α) :
    h.redo current =
      some (e.state,
        { h with
          undoStack := ⟨e.description, current⟩ :: h.undoStack
          redoStack := rest }) := by
  rw [redo_eq_swap, hfits.swap.undo_cons hstack]
  rfl

theorem Fits.redo (hfits : h.Fits) (hredo : h.redo current = some (target, next)) :
    next.Fits :=
  (hfits.swap.undo (swap_undo hredo)).swap

/-- Redo takes undo back, and both stacks are as they were. -/
theorem Fits.redo_undo
    (hfits : h.Fits) (hundo : h.undo current = some (target, next)) :
    next.redo target = some (current, h) := by
  obtain ⟨description, rest, hstack, rfl⟩ := hfits.undo_eq hundo
  have hroom := hfits.entries
  rw [hstack, List.length_cons] at hroom
  obtain ⟨undoStack, redoStack, limit⟩ := h
  simp only at hstack hroom
  simp only [History.redo, hstack]
  rw [List.take_of_length_le (by simp only [List.length_cons]; omega)]

theorem exists_undo (hsome : 0 < h.undoStack.length) (current : α) :
    ∃ target next,
      h.undo current = some (target, next) ∧
      next.undoStack.length + 1 = h.undoStack.length := by
  unfold History.undo
  cases hstack : h.undoStack with
  | nil => simp [hstack] at hsome
  | cons e rest => exact ⟨_, _, rfl, rfl⟩

end History
end RecordGrid
