/-!
# History

Undo and redo over whole states.  Each entry holds the state before a change
that was made, or taken back, under the name of the change; the newest entry
comes first.  When there are as many entries as are kept, the oldest one goes.
-/

namespace RecordGrid

structure HistoryEntry (α : Type) where
  description : String
  state : α

structure History (α : Type) where
  undoStack : List (HistoryEntry α) := []
  redoStack : List (HistoryEntry α) := []
  /-- How many entries a stack keeps. -/
  limit : Nat := 100

namespace History

variable {α : Type}

/-- The empty history with a limit, which is never below one. -/
def withLimit (limit : Nat) : History α := { limit := max limit 1 }

/-- Records the state before a change; there is nothing to redo after it. -/
def record (h : History α) (description : String) (before : α) : History α :=
  { h with undoStack := (⟨description, before⟩ :: h.undoStack).take h.limit, redoStack := [] }

/-- Takes back the last change: the state before it, and the history in which
the current state can be returned to. -/
def undo (h : History α) (current : α) : Option (α × History α) :=
  match h.undoStack with
  | [] => none
  | e :: rest =>
      some (e.state,
        { h with
          undoStack := rest
          redoStack := (⟨e.description, current⟩ :: h.redoStack).take h.limit })

/-- Makes the change again that was taken back last. -/
def redo (h : History α) (current : α) : Option (α × History α) :=
  match h.redoStack with
  | [] => none
  | e :: rest =>
      some (e.state,
        { h with
          redoStack := rest
          undoStack := (⟨e.description, current⟩ :: h.undoStack).take h.limit })

def canUndo (h : History α) : Bool := !h.undoStack.isEmpty

def canRedo (h : History α) : Bool := !h.redoStack.isEmpty

def undoDescription? (h : History α) : Option String := h.undoStack.head?.map (·.description)

def redoDescription? (h : History α) : Option String := h.redoStack.head?.map (·.description)

def clear (h : History α) : History α := { h with undoStack := [], redoStack := [] }

/-- What was recorded last is what undo returns to. -/
theorem undo_record (h : History α) (description : String) (before current : α)
    (hlimit : 1 ≤ h.limit) :
    (h.record description before).undo current =
      some (before,
        { h with
          undoStack := h.undoStack.take (h.limit - 1)
          redoStack := [⟨description, current⟩] }) := by
  obtain ⟨n, hn⟩ : ∃ n, h.limit = n + 1 := ⟨h.limit - 1, by omega⟩
  simp [record, undo, hn]

end History

end RecordGrid
