import RecordGrid.Proofs.Grid.Pages

/-!
# Edits that watch their indices

The structural edits step by step, where every step that uses an index may fail: a
position has to lie in the list it is used on, nothing is taken from less, and
nothing is divided by zero.  No step of them fails, whatever the grid, but for one.
Positions are selected, found or counted, and each comes with what keeps it in range:
a selected pair is looked at before it is taken, a position that was found is that of
a column, and the last ones are counted from lists that are long enough.  Only the
count of the pages may overflow.  An edit that asks for it ends in that fault, and
every other one returns the grid that the plain edit does.
-/

namespace RecordGrid
namespace Guarded

open RecordGrid.Count (minus quotient minus_of_le quotient_of_pos)

/-! ## Steps -/

section

variable {α : Type}

def item (xs : List α) (i : Nat) : Except IndexFault α :=
  match xs[i]? with
  | some x => .ok x
  | none => .error (.outOfRange i xs.length)

/-- Takes an item out of a list. -/
def takeOut (xs : List α) (i : Nat) : Except IndexFault (α × List α) := do
  let x ← item xs i
  .ok (x, xs.eraseIdx i)

/-- The result, unless there is a fault. -/
def barring (fault? : Option IndexFault) (result : α) : Except IndexFault α :=
  fault?.elim (.ok result) .error

/-- Puts an item before another, or at the end. -/
def putIn (xs : List α) (i : Nat) (x : α) : Except IndexFault (List α) :=
  if i ≤ xs.length then .ok (xs.insertIdx i x) else .error (.outOfRange i xs.length)

variable {xs : List α} {i : Nat} {x : α}

theorem item_eq (h : xs[i]? = some x) : item xs i = .ok x := by
  rw [item, h]

theorem takeOut_eq (h : xs[i]? = some x) : takeOut xs i = .ok (x, xs.eraseIdx i) := by
  rw [takeOut, item_eq h]
  rfl

theorem putIn_of_le (h : i ≤ xs.length) : putIn xs i x = .ok (xs.insertIdx i x) := if_pos h

end

/-! ## Pages -/

def pageOf (p : Paging) (index : Nat) : Except IndexFault Nat :=
  if p.enabled then quotient index p.pageSize else .ok 0

/-- The page, or the last one; without pages that is the first. -/
def clampPage (p : Paging) (rowCount page : Nat) : Except IndexFault Nat := do
  let count ← p.countPages rowCount
  .ok (min page (count - 1))

theorem pageOf_eq (p : Paging) (index : Nat) : pageOf p index = .ok (p.pageOf index) := by
  unfold pageOf Paging.pageOf
  split
  · exact quotient_of_pos p.pageSize_pos
  · rfl

theorem countPages_eq_barring (p : Paging) (rowCount : Nat) :
    p.countPages rowCount = barring (p.fault? rowCount) (p.totalPages rowCount) := by
  unfold Paging.fault? Paging.totalPages
  cases p.countPages rowCount <;> rfl

theorem clampPage_eq (p : Paging) (rowCount page : Nat) :
    clampPage p rowCount page = barring (p.fault? rowCount) (p.clampPage rowCount page) := by
  rw [clampPage, countPages_eq_barring]
  cases p.fault? rowCount <;> rfl

/-! ## Positions that an edit is about -/

/-- The selected pair, else the last two. -/
def pair (length : Nat) (selected : List Nat) : Except IndexFault (Nat × Nat) := do
  let before ← minus length 2
  let last ← minus length 1
  .ok ((selectedPair? length selected).getD (before, last))

/-- The only record selected where there is such a record, else the last. -/
def rowTarget (length : Nat) : List Nat → Except IndexFault Nat
  | [i] => if i < length then .ok i else minus length 1
  | _ => minus length 1

/-- The only column selected, else the last. -/
def columnTarget (length : Nat) (selected : List Nat) : Except IndexFault Nat := do
  let last ← minus length 1
  match selected with
  | [i] => .ok i
  | _ => .ok last

theorem pair_eq {length : Nat} (htwo : 2 ≤ length) (selected : List Nat) :
    pair length selected = .ok (mergeTargets length selected) := by
  rw [pair, minus_of_le htwo, minus_of_le (Nat.le_of_succ_le htwo)]
  rfl

theorem rowTarget_eq {length : Nat} (hone : 1 ≤ length) (selected : List Nat) :
    rowTarget length selected = .ok (splitTarget length selected) := by
  have hlast := minus_of_le hone
  match selected with
  | [] => exact hlast
  | [i] =>
      simp only [rowTarget, splitTarget]
      split
      · rfl
      · exact hlast
  | _ :: _ :: _ => exact hlast

theorem columnTarget_eq
    {length : Nat} {selected : List Nat} (hone : 1 ≤ length)
    (hselected : ∀ i ∈ selected, i < length) :
    columnTarget length selected = .ok (splitTarget length selected) := by
  rw [columnTarget, minus_of_le hone]
  match selected with
  | [] => rfl
  | [i] =>
      have hi := hselected i (List.mem_singleton_self i)
      simp only [splitTarget, if_pos hi]
      rfl
  | _ :: _ :: _ => rfl

/-! ## Edits of records -/

def addRow (p : Policy) (g : Grid) : Except IndexFault Transition :=
  if p.canGrow g.rowCount then do
    let rows := g.rows ++ [defaultRow g.columns]
    let last ← minus rows.length 1
    let page ← if p.paging.enabled then pageOf p.paging last else .ok g.page
    .ok (.ofRows { g with rows, page })
  else .ok (.unchanged g)

def removeRow (p : Policy) (index : Nat) (g : Grid) : Except IndexFault Transition :=
  if index < g.rowCount ∧ p.canShrink g.rowCount then do
    let (_, rows) ← takeOut g.rows index
    let selectedRows ← (g.selectedRows.filter fun i => i ≠ index).mapM fun i =>
      if index < i then minus i 1 else .ok i
    let page ← clampPage p.paging rows.length g.page
    .ok (.ofPositions { g with rows, selectedRows, page })
  else .ok (.unchanged g)

def mergeRows (p : Policy) (g : Grid) : Except IndexFault Transition :=
  if 2 ≤ g.rowCount ∧ p.canShrink g.rowCount then do
    let (lower, upper) ← pair g.rowCount g.selectedRows
    let (dropped, rows) ← takeOut g.rows upper
    let _ ← item rows lower
    let page ← clampPage p.paging rows.length g.page
    .ok (.ofPositions
      { g.clearSelection with rows := rows.modify lower (Row.overlay dropped), page })
  else .ok (.unchanged g)

def splitRow (p : Policy) (g : Grid) : Except IndexFault Transition :=
  if 1 ≤ g.rowCount ∧ p.canGrow g.rowCount then do
    let index ← rowTarget g.rowCount g.selectedRows
    let record ← item g.rows index
    let rows ← putIn g.rows (index + 1) record
    .ok (.ofPositions { g.clearSelection with rows })
  else .ok (.unchanged g)

def reseed (p : Policy) (rows : List Row) (g : Grid) : Except IndexFault Transition := do
  let page ← clampPage p.paging rows.length g.page
  .ok (.ofPositions { g with rows, selectedRows := [], page })

theorem addRow_eq (p : Policy) (g : Grid) : addRow p g = .ok (g.addRow p) := by
  unfold addRow Grid.addRow
  split
  · have hlast : minus (g.rows ++ [defaultRow g.columns]).length 1 = .ok g.rowCount := by
      rw [List.length_append, List.length_singleton, minus_of_le (Nat.le_add_left ..)]
      rfl
    simp only [hlast, pageOf_eq, bind, Except.bind]
    split <;> rfl
  · rfl

/-- Only what lies behind the removed record moves up, and nothing does from the top. -/
theorem mapM_shiftDown (index : Nat) (selected : List Nat) :
    (selected.mapM fun i => if index < i then minus i 1 else .ok i) =
      .ok (selected.map (shiftDown index)) := by
  have hshift (i : Nat) :
      (if index < i then minus i 1 else .ok i) = .ok (shiftDown index i) := by
    unfold shiftDown
    split
    · exact minus_of_le (by omega)
    · rfl
  induction selected with
  | nil => rfl
  | cons i rest ih =>
      rw [List.mapM_cons, hshift, ih]
      rfl

theorem removeRow_eq (p : Policy) (index : Nat) (g : Grid) :
    removeRow p index g =
      barring ((StructuralEdit.removeRow index).fault? p g) (g.removeRow p index) := by
  unfold removeRow Grid.removeRow StructuralEdit.fault?
  by_cases hmay : index < g.rowCount ∧ p.canShrink g.rowCount = true
  · have hcount : (g.rows.eraseIdx index).length = g.rowCount - 1 :=
      List.length_eraseIdx_of_lt hmay.1
    simp only [if_pos hmay, takeOut_eq (List.getElem?_eq_getElem hmay.1), mapM_shiftDown, hcount,
      clampPage_eq, bind, Except.bind]
    cases p.paging.fault? (g.rowCount - 1) <;> rfl
  · simp only [if_neg hmay]
    rfl

theorem mergeRows_eq (p : Policy) (g : Grid) :
    mergeRows p g = barring (StructuralEdit.mergeRows.fault? p g) (g.mergeRows p) := by
  unfold mergeRows Grid.mergeRows StructuralEdit.fault?
  by_cases hmay : 2 ≤ g.rowCount ∧ p.canShrink g.rowCount = true
  · obtain ⟨hlower, hupper⟩ := mergeTargets_lt hmay.1 g.selectedRows
    have htargets := pair_eq hmay.1 g.selectedRows
    cases hpair : mergeTargets g.rowCount g.selectedRows with
    | mk lower upper =>
        rw [hpair] at hlower hupper htargets
        have hdropped : g.rows[upper]? = some g.rows[upper] := List.getElem?_eq_getElem hupper
        have hcount : (g.rows.eraseIdx upper).length = g.rowCount - 1 :=
          List.length_eraseIdx_of_lt hupper
        have hplace : lower < (g.rows.eraseIdx upper).length := by omega
        simp only [if_pos hmay, htargets, takeOut_eq hdropped,
          item_eq (List.getElem?_eq_getElem hplace), hcount, clampPage_eq, bind, Except.bind,
          List.getD_eq_getElem?_getD, hdropped, Option.getD_some]
        cases p.paging.fault? (g.rowCount - 1) <;> rfl
  · simp only [if_neg hmay]
    rfl

theorem splitRow_eq (p : Policy) (g : Grid) : splitRow p g = .ok (g.splitRow p) := by
  unfold splitRow Grid.splitRow
  split
  · rename_i hmay
    have hindex : splitTarget g.rowCount g.selectedRows < g.rows.length :=
      splitTarget_lt hmay.1 g.selectedRows
    have hrecord := List.getElem?_eq_getElem hindex
    simp only [rowTarget_eq hmay.1, item_eq hrecord, putIn_of_le (Nat.succ_le_of_lt hindex), bind,
      Except.bind, List.getD_eq_getElem?_getD, hrecord, Option.getD_some]
  · rfl

theorem reseed_eq (p : Policy) (rows : List Row) (g : Grid) :
    reseed p rows g = barring (p.paging.fault? rows.length) (g.reseed p rows) := by
  rw [reseed, clampPage_eq]
  cases p.paging.fault? rows.length <;> rfl

/-! ## Edits of columns -/

def removeColumn (fieldId : String) (g : Grid) : Except IndexFault Transition :=
  match g.columnIndex? fieldId with
  | some position => do
      let (_, columns) ← takeOut g.columns position
      .ok (.ofColumns
        { g with
          columns
          rows := g.rows.map (Keyed.erase fieldId)
          selectedCols := Ascending.erase fieldId g.selectedCols })
  | none => .ok (.unchanged g)

def mergeColumns (g : Grid) : Except IndexFault Transition :=
  if 2 ≤ g.columns.length then do
    let (lower, upper) ← pair g.columns.length g.selectedPositions
    let (dropped, columns) ← takeOut g.columns upper
    let kept ← item columns lower
    .ok (.ofColumns
      { g.clearSelection with
        columns := columns.set lower
          { kept with fieldName := kept.fieldName ++ "/" ++ dropped.fieldName }
        rows := g.rows.map fun row => Row.fold row kept.fieldId dropped.fieldId })
  else .ok (.unchanged g)

def splitColumn (g : Grid) : Except IndexFault Transition :=
  if 1 ≤ g.columns.length then do
    let position ← columnTarget g.columns.length g.selectedPositions
    let source ← item g.columns position
    let id := uniqueFieldId g.fieldIds (source.fieldId ++ "_copy")
    let columns ← putIn g.columns (position + 1)
      { source with fieldId := id, fieldName := source.fieldName ++ " Copy" }
    .ok (.ofColumns
      { g.clearSelection with
        columns
        rows := g.rows.map fun row => Row.copied row source.fieldId id })
  else .ok (.unchanged g)

/-- A position that is found for an id is that of a column, whatever ids are selected
and however many columns share them. -/
theorem selectedPositions_lt (g : Grid) : ∀ i ∈ g.selectedPositions, i < g.columns.length := by
  intro i hi
  obtain ⟨id, -, hindex⟩ := List.mem_filterMap.1 hi
  exact (List.findIdx?_eq_some_iff_getElem.1 hindex).1

theorem removeColumn_eq (fieldId : String) (g : Grid) :
    removeColumn fieldId g = .ok (g.removeColumn fieldId) := by
  unfold removeColumn Grid.removeColumn
  cases hindex : g.columnIndex? fieldId with
  | none => rfl
  | some position =>
      have hlt : position < g.columns.length :=
        (List.findIdx?_eq_some_iff_getElem.1 hindex).1
      simp only [takeOut_eq (List.getElem?_eq_getElem hlt), bind, Except.bind]

theorem mergeColumns_eq (g : Grid) : mergeColumns g = .ok g.mergeColumns := by
  unfold mergeColumns Grid.mergeColumns
  split
  · rename_i htwo
    obtain ⟨hlower, hupper⟩ := mergeTargets_lt htwo g.selectedPositions
    have htargets := pair_eq htwo g.selectedPositions
    cases hpair : mergeTargets g.columns.length g.selectedPositions with
    | mk lower upper =>
        rw [hpair] at hlower hupper htargets
        have hdropped : g.columns[upper]? = some g.columns[upper] :=
          List.getElem?_eq_getElem hupper
        have hkept : g.columns[lower]? = some g.columns[lower] :=
          List.getElem?_eq_getElem (Nat.lt_trans hlower hupper)
        have hstays : (g.columns.eraseIdx upper)[lower]? = some g.columns[lower] := by
          rw [List.getElem?_eraseIdx_of_lt hlower, hkept]
        simp only [htargets, takeOut_eq hdropped, item_eq hstays, bind, Except.bind, hkept,
          hdropped]
  · simp only
    split <;> rfl

theorem splitColumn_eq (g : Grid) : splitColumn g = .ok g.splitColumn := by
  unfold splitColumn Grid.splitColumn
  split
  · rename_i hone
    have hposition := splitTarget_lt hone g.selectedPositions
    have hsource := List.getElem?_eq_getElem hposition
    simp only [columnTarget_eq hone (selectedPositions_lt g), item_eq hsource,
      putIn_of_le (Nat.succ_le_of_lt hposition), bind, Except.bind, hsource]
  · rename_i hnone
    have hempty : g.columns = [] := List.eq_nil_of_length_eq_zero (by omega)
    simp only [hempty, List.getElem?_nil]

/-! ## All edits -/

def apply (p : Policy) : StructuralEdit → Grid → Except IndexFault Transition
  | .addRow, g => addRow p g
  | .removeRow index, g => removeRow p index g
  | .mergeRows, g => mergeRows p g
  | .splitRow, g => splitRow p g
  | .addColumn label, g => .ok (g.addColumn label)
  | .removeColumn fieldId, g => removeColumn fieldId g
  | .mergeColumns, g => mergeColumns g
  | .splitColumn, g => splitColumn g

/-- An edit ends in no fault but that of the count of the pages, if it asks for it. -/
theorem apply_eq (p : Policy) (e : StructuralEdit) (g : Grid) :
    apply p e g = barring (e.fault? p g) (e.apply p g) := by
  cases e with
  | addRow => exact addRow_eq p g
  | removeRow index => exact removeRow_eq p index g
  | mergeRows => exact mergeRows_eq p g
  | splitRow => exact splitRow_eq p g
  | addColumn label => rfl
  | removeColumn fieldId => exact removeColumn_eq fieldId g
  | mergeColumns => exact mergeColumns_eq g
  | splitColumn => exact splitColumn_eq g

/-- Whatever the grid and the edit, no index is out of range and none is taken below
zero, as long as the records and those of one page are few enough for their sum to
fit in 64 bits.  The same holds for other records put in the place of all. -/
theorem edits_keep_indices_in_range
    {p : Policy} {g : Grid} (hfits : p.paging.pageSize + g.rowCount < 2 ^ 64) :
    (∀ e : StructuralEdit, apply p e g = .ok (e.apply p g)) ∧
      ∀ rows : List Row, p.paging.pageSize + rows.length < 2 ^ 64 →
        reseed p rows g = .ok (g.reseed p rows) := by
  constructor
  · intro e
    rw [apply_eq, StructuralEdit.fault?_eq_none_of_fits (by omega)]
    rfl
  · intro rows hrows
    rw [reseed_eq, p.paging.fault?_eq_none_of_fits (by omega)]
    rfl

/-- Two columns share an id and both are selected, no record is where two are, and the
page lies far beyond the last. -/
theorem edits_keep_indices_in_range_of_malformed :
    let p : Policy := { paging := { enabled := true, rowsPerPage := some (2 ^ 64 - 4) } }
    let g : Grid :=
      { columns := [.plain "a" "A" "text", .plain "a" "B" "text", .plain "b" "C" "text"]
        rows := [[("a", .int 1)], [("b", .int 2)], []], selectedRows := [7, 9]
        selectedCols := ["a", "z"], page := 99 }
    p.paging.pageSize + g.rowCount < 2 ^ 64 ∧ g.selectedPositions = [0, 0] ∧
      apply p .mergeRows g = .ok (g.mergeRows p) ∧
      (g.mergeRows p).grid.rows = [[("a", .int 1)], [("b", .int 2)]] ∧
      apply p .mergeColumns g = .ok g.mergeColumns ∧ g.mergeColumns.grid.fieldIds = ["a", "a"] ∧
      apply p (.removeRow 9) g = .ok (.unchanged g) ∧
      p.paging.pageSize + [[("a", Json.null)]].length < 2 ^ 64 ∧
      reseed p [[("a", .null)]] g = .ok (g.reseed p [[("a", .null)]]) := by
  intro p g
  have hfits : p.paging.pageSize + g.rowCount < 2 ^ 64 := by decide
  have hrows : p.paging.pageSize + [[("a", Json.null)]].length < 2 ^ 64 := by decide
  obtain ⟨hedits, hreseed⟩ := edits_keep_indices_in_range hfits
  exact ⟨hfits, rfl, hedits .mergeRows, rfl, hedits .mergeColumns, rfl, hedits (.removeRow 9),
    hrows, hreseed [[("a", .null)]] hrows⟩

end Guarded
end RecordGrid
