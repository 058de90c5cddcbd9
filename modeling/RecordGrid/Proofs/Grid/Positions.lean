import RecordGrid.Grid.Rows

/-!
# Positions of records

Which positions an edit is about, and where the others are found after it.  When
a record is removed, those below it move up by one: each of them has a new
position of its own, no position is left over, and their order stays.
-/

namespace RecordGrid

/-! ## Targets -/

theorem mergeTargets_lt
    {length : Nat} (htwo : 2 ≤ length) (selected : List Nat) :
    (mergeTargets length selected).1 < (mergeTargets length selected).2 ∧
      (mergeTargets length selected).2 < length := by
  unfold mergeTargets
  cases hpair : selectedPair? length selected with
  | none => simp only [Option.getD_none]; omega
  | some pair =>
      unfold selectedPair? at hpair
      split at hpair
      · split at hpair
        · cases hpair
          simp only [Option.getD_some]
          omega
        · cases hpair
      · cases hpair

theorem mergeTargets_pair
    {length lower upper : Nat} (hlt : lower < upper) (hupper : upper < length) :
    mergeTargets length [lower, upper] = (lower, upper) := by
  have hpair : lower < length ∧ upper < length ∧ lower ≠ upper := by omega
  rw [mergeTargets, selectedPair?, if_pos hpair, Option.getD_some,
    Nat.min_eq_left (Nat.le_of_lt hlt), Nat.max_eq_right (Nat.le_of_lt hlt)]

theorem splitTarget_lt {length : Nat} (hone : 1 ≤ length) (selected : List Nat) :
    splitTarget length selected < length := by
  unfold splitTarget
  split
  · split <;> omega
  · omega

/-! ## After a removal -/

section

variable {index i j length : Nat}

theorem shiftDown_lt (hindex : index < length) (hi : i < length) (hne : i ≠ index) :
    shiftDown index i < length - 1 := by
  unfold shiftDown
  split <;> omega

theorem shiftDown_lt_shiftDown_iff (hi : i ≠ index) (hj : j ≠ index) :
    shiftDown index i < shiftDown index j ↔ i < j := by
  unfold shiftDown
  split <;> split <;> omega

theorem shiftDown_inj (hi : i ≠ index) (hj : j ≠ index) :
    shiftDown index i = shiftDown index j ↔ i = j := by
  unfold shiftDown
  split <;> split <;> omega

/-- Every position after the removal is the new one of a record. -/
theorem exists_shiftDown_eq (hindex : index < length) (hi : i < length - 1) :
    ∃ j < length, j ≠ index ∧ shiftDown index j = i := by
  by_cases hbefore : i < index
  · refine ⟨i, by omega, by omega, ?_⟩
    rw [shiftDown, if_neg (by omega)]
  · refine ⟨i + 1, by omega, by omega, ?_⟩
    rw [shiftDown, if_pos (by omega), Nat.add_sub_cancel]

theorem getElem?_eraseIdx_shiftDown {α : Type} (as : List α) (hi : i ≠ index) :
    (as.eraseIdx index)[shiftDown index i]? = as[i]? := by
  unfold shiftDown
  split
  · rename_i hafter
    rw [List.getElem?_eraseIdx_of_ge (by omega), Nat.sub_add_cancel (by omega)]
  · exact List.getElem?_eraseIdx_of_lt (by omega)

end

end RecordGrid
