import RecordGrid.Grid.Basic
import RecordGrid.Layout.Page

/-!
# Structural edits

What a structural edit needs to know besides the grid, and what it says about
the grid it returns.  An edit that cannot run returns the grid it was given,
with an empty change.
-/

namespace RecordGrid

/-- The limits on records, and the paging. -/
structure Policy where
  rowControls : RowControls := {}
  paging : Paging := {}

namespace Policy

/-- Whether a record may be added to as many. -/
def canGrow (p : Policy) (rowCount : Nat) : Bool :=
  p.rowControls.mode != .fixed && p.rowControls.maxRows.all fun most => decide (rowCount < most)

/-- Whether a record may be taken from as many. -/
def canShrink (p : Policy) (rowCount : Nat) : Bool :=
  p.rowControls.mode != .fixed && p.rowControls.minRows.all fun least => decide (least < rowCount)

end Policy

structure Change where
  rows : Bool := false
  columns : Bool := false
  /-- Positions of records now mean other records. -/
  renumbered : Bool := false
deriving DecidableEq, Repr

def Change.isNone (c : Change) : Bool := decide (c = {})

structure Transition where
  grid : Grid
  change : Change

namespace Transition

def unchanged (g : Grid) : Transition := ⟨g, {}⟩

/-- A change of records that keep their positions. -/
def ofRows (g : Grid) : Transition := ⟨g, { rows := true }⟩

/-- A change of records and of their positions. -/
def ofPositions (g : Grid) : Transition := ⟨g, { rows := true, renumbered := true }⟩

/-- A change of columns, and of the values under them. -/
def ofColumns (g : Grid) : Transition := ⟨g, { rows := true, columns := true }⟩

end Transition

/-- The two positions that are selected, the lower first, where they are two
positions of a list of that length. -/
def selectedPair? (length : Nat) : List Nat → Option (Nat × Nat)
  | [a, b] => if a < length ∧ b < length ∧ a ≠ b then some (min a b, max a b) else none
  | _ => none

/-- The two positions that a merge is about: the selected pair, else the last
two. -/
def mergeTargets (length : Nat) (selected : List Nat) : Nat × Nat :=
  (selectedPair? length selected).getD (length - 2, length - 1)

/-- The position that a split is about: the only one selected, else the last. -/
def splitTarget (length : Nat) : List Nat → Nat
  | [i] => if i < length then i else length - 1
  | _ => length - 1

end RecordGrid
