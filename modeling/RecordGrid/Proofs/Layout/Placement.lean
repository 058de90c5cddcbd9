import Mathlib.Data.List.InsertIdx
import Mathlib.Data.List.Nodup
import RecordGrid.Proofs.Layout.HeaderNode

/-!
# The nodes of a header and their columns

Placing the columns that a description does not mention adds a leaf for each of
them and moves nothing else.  Together the nodes then hold every column once.
-/

namespace RecordGrid

namespace HeaderNode

open scoped List

variable {mentioned : List String} {state : List HeaderNode × Nat} {c : Column}

/-! ## Placing -/

theorem placeColumn_of_not_mentioned (hc : mentioned.contains c.fieldId = false) :
    placeColumn mentioned state c = (state.1.insertIdx state.2 (leaf c), state.2 + 1) := by
  simp only [placeColumn, hc, Bool.false_eq_true, if_false]

theorem placeColumn_of_found
    (hc : mentioned.contains c.fieldId = true) {i : Nat}
    (hi : state.1.findIdx? (fun n => n.fieldIds.contains c.fieldId) = some i) :
    placeColumn mentioned state c = (state.1, max state.2 (i + 1)) := by
  simp only [placeColumn, hc, if_true, hi]

/-- A mentioned column leaves the nodes alone. -/
theorem placeColumn_of_mentioned
    (hc : mentioned.contains c.fieldId = true) (state : List HeaderNode × Nat) :
    (placeColumn mentioned state c).1 = state.1 ∧
      (state.2 ≤ state.1.length → (placeColumn mentioned state c).2 ≤ state.1.length) := by
  simp only [placeColumn, hc, if_true]
  split
  · next i hi =>
      obtain ⟨hlt, -⟩ := List.findIdx?_eq_some_iff_getElem.1 hi
      exact ⟨rfl, fun hplace => by simp only; omega⟩
  · exact ⟨rfl, id⟩

/-- The leaves of the columns that are not mentioned. -/
def newLeaves (mentioned : List String) (columns : List Column) : List HeaderNode :=
  (columns.filter fun c => !mentioned.contains c.fieldId).map leaf

theorem placeColumn_perm
    (mentioned : List String) (c : Column) (hplace : state.2 ≤ state.1.length) :
    (placeColumn mentioned state c).2 ≤ (placeColumn mentioned state c).1.length ∧
      (placeColumn mentioned state c).1 ~ newLeaves mentioned [c] ++ state.1 := by
  cases hc : mentioned.contains c.fieldId with
  | true =>
      obtain ⟨hnodes, hwithin⟩ := placeColumn_of_mentioned hc state
      have hleaves : newLeaves mentioned [c] = [] := by
        simp only [newLeaves, List.filter_cons, hc, Bool.not_true, Bool.false_eq_true, if_false,
          List.filter_nil, List.map_nil]
      rw [hnodes, hleaves]
      exact ⟨hwithin hplace, .refl _⟩
  | false =>
      have hleaves : newLeaves mentioned [c] = [leaf c] := by
        simp only [newLeaves, List.filter_cons, hc, Bool.not_false, if_true, List.filter_nil,
          List.map_cons, List.map_nil]
      rw [placeColumn_of_not_mentioned hc, hleaves]
      refine ⟨?_, List.perm_insertIdx (leaf c) state.1 hplace⟩
      rw [List.length_insertIdx_of_le_length hplace]
      exact Nat.succ_le_succ hplace

theorem newLeaves_cons (c : Column) (rest : List Column) :
    newLeaves mentioned (c :: rest) = newLeaves mentioned [c] ++ newLeaves mentioned rest := by
  simp only [newLeaves, ← List.map_append, ← List.filter_append, List.singleton_append]

theorem foldl_placeColumn_perm (columns : List Column) (hplace : state.2 ≤ state.1.length) :
    (columns.foldl (placeColumn mentioned) state).1 ~ newLeaves mentioned columns ++ state.1 := by
  induction columns generalizing state with
  | nil => exact .refl _
  | cons c rest ih =>
      obtain ⟨hwithin, hplaced⟩ := placeColumn_perm mentioned c hplace
      rw [List.foldl_cons, newLeaves_cons, List.append_assoc]
      calc (rest.foldl (placeColumn mentioned) (placeColumn mentioned state c)).1
        _ ~ newLeaves mentioned rest ++ (placeColumn mentioned state c).1 := ih hwithin
        _ ~ newLeaves mentioned rest ++ (newLeaves mentioned [c] ++ state.1) :=
          hplaced.append_left _
        _ ~ newLeaves mentioned [c] ++ (newLeaves mentioned rest ++ state.1) :=
          List.perm_append_comm_assoc ..

/-! ## The nodes of a header -/

variable {nodes : List HeaderNode} {columns : List Column}

theorem forColumns_perm (nodes : List HeaderNode) (columns : List Column) :
    let left := pruneNodes (columns.map (·.fieldId)) nodes
    forColumns nodes columns ~ newLeaves (idsOfNodes left) columns ++ left :=
  foldl_placeColumn_perm columns (Nat.zero_le _)

theorem described_forColumns (hnodes : ∀ n ∈ nodes, n.Described) :
    ∀ n ∈ forColumns nodes columns, n.Described := by
  intro n hn
  rcases List.mem_append.1 ((forColumns_perm nodes columns).mem_iff.1 hn) with hleaf | hleft
  · obtain ⟨c, -, rfl⟩ := List.mem_map.1 hleaf
    exact described_leaf c
  · exact described_pruneNodes hnodes n hleft

theorem idsOfNodes_newLeaves (mentioned : List String) (columns : List Column) :
    idsOfNodes (newLeaves mentioned columns) =
      (columns.map (·.fieldId)).filter fun id => !mentioned.contains id := by
  simp only [newLeaves, idsOfNodes_eq_flatMap, List.flatMap_map, fieldIds_leaf, List.filter_map]
  exact List.flatMap_pure_eq_map ..

/-- The nodes hold the ids that the description lists, as often as it lists them,
and once those that it does not list; all of columns that there are. -/
theorem idsOfNodes_forColumns_perm (nodes : List HeaderNode) (columns : List Column) :
    let ids := columns.map (·.fieldId)
    idsOfNodes (forColumns nodes columns) ~
      ids.filter (fun id => !(idsOfNodes nodes).contains id) ++
        (idsOfNodes nodes).filter ids.contains := by
  intro ids
  have hperm := (forColumns_perm nodes columns).flatMap_right fieldIds
  simp only [← idsOfNodes_eq_flatMap, idsOfNodes_append, idsOfNodes_newLeaves,
    idsOfNodes_pruneNodes] at hperm
  refine hperm.trans (.append_right _ (.of_eq ?_))
  -- among the ids of columns, pruning leaves as many listed as there were
  refine List.filter_congr fun id hid => ?_
  have hpresent : id ∈ columns.map (·.fieldId) := hid
  simp [hpresent]

/-- The nodes hold every column, and each of them once. -/
theorem idsOfNodes_forColumns
    (hids : (idsOfNodes nodes).Nodup) (hcolumns : (columns.map (·.fieldId)).Nodup) :
    idsOfNodes (forColumns nodes columns) ~ columns.map (·.fieldId) := by
  set present := columns.map (·.fieldId) with hpresent
  have hlisted : (idsOfNodes nodes).filter present.contains ~
      present.filter (idsOfNodes nodes).contains := by
    rw [List.perm_ext_iff_of_nodup (hids.filter _) (hcolumns.filter _)]
    intro id
    simp [and_comm]
  calc idsOfNodes (forColumns nodes columns)
    _ ~ present.filter (fun id => !(idsOfNodes nodes).contains id) ++
          (idsOfNodes nodes).filter present.contains := idsOfNodes_forColumns_perm nodes columns
    _ ~ present.filter (fun id => !(idsOfNodes nodes).contains id) ++
          present.filter (idsOfNodes nodes).contains := hlisted.append_left _
    _ ~ present :=
      List.perm_append_comm.trans (List.filter_append_perm (idsOfNodes nodes).contains present)

end HeaderNode

end RecordGrid
