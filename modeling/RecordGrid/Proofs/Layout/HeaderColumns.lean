import RecordGrid.Proofs.Layout.HeaderOrder

/-!
# What a header shows of its columns

Whatever the shape of a description, the header shows the columns there are and
no others: an id as often as the description lists it, and a column that is not
listed once, over the full height.  Every node that is left with a column keeps
its cell, with its label and in the row of its level.
-/

namespace RecordGrid

namespace HeaderNode

variable {nodes others : List HeaderNode} {columns : List Column} {ids : List String} {d : Nat}

/-! ## Nodes that keep a column -/

/-- Whether the node, or one below it, lists any of the ids. -/
def mentionsAny (ids : List String) (n : HeaderNode) : Bool := n.fieldIds.any ids.contains

theorem fieldIds_filter_eq_nil_iff {n : HeaderNode} :
    n.fieldIds.filter ids.contains = [] ↔ n.mentionsAny ids = false := by
  rw [List.filter_eq_nil_iff, mentionsAny, List.any_eq_false]

theorem prune?_of_mentionsAny {n : HeaderNode} (hn : n.mentionsAny ids = true) :
    prune? ids n = some (n.pruned ids) := by
  have hleft : (n.pruned ids).fieldIds ≠ [] := by
    rw [fieldIds_pruned, Ne, fieldIds_filter_eq_nil_iff, hn]
    simp
  rw [prune?_eq, if_pos (.inr hleft)]

theorem mentionsAny_of_mem_kids {n kid : HeaderNode} (hkid : kid ∈ n.kids)
    (hmentions : kid.mentionsAny ids = true) : n.mentionsAny ids = true := by
  obtain ⟨id, hid, hthere⟩ := List.any_eq_true.1 hmentions
  exact List.any_eq_true.2 ⟨id, fieldIds_subset_of_mem_kids hkid hid, hthere⟩

theorem map_pruned_sublist (ids : List String) (nodes : List HeaderNode) :
    ((nodes.filter (mentionsAny ids)).map (pruned ids)).Sublist (pruneNodes ids nodes) := by
  have hkept : (nodes.filter (mentionsAny ids)).map (pruned ids) =
      (nodes.filter (mentionsAny ids)).filterMap (prune? ids) := by
    rw [← List.filterMap_eq_map]
    refine List.filterMap_congr fun n hn => ?_
    rw [prune?_of_mentionsAny (List.mem_filter.1 hn).2]
    rfl
  rw [hkept, pruneNodes_eq_filterMap]
  exact List.filter_sublist.filterMap _

/-- Only below a node that keeps a column is there another. -/
theorem filter_flatMap_kids (ids : List String) (nodes : List HeaderNode) :
    (nodes.flatMap kids).filter (mentionsAny ids) =
      (nodes.filter (mentionsAny ids)).flatMap fun n => n.kids.filter (mentionsAny ids) := by
  rw [List.filter_flatMap]
  induction nodes with
  | nil => rfl
  | cons n rest ih =>
      rw [List.flatMap_cons, ih]
      cases hn : n.mentionsAny ids with
      | true => rw [List.filter_cons_of_pos hn, List.flatMap_cons]
      | false =>
          have hkids : n.kids.filter (mentionsAny ids) = [] := by
            rw [List.filter_eq_nil_iff]
            intro kid hkid hmentions
            rw [mentionsAny_of_mem_kids hkid hmentions] at hn
            cases hn
          rw [hkids, List.filter_cons_of_neg (by simp [hn]), List.nil_append]

/-- The nodes that keep a column stay at their level, in their order. -/
theorem level_pruneNodes (ids : List String) (nodes : List HeaderNode) (d : Nat) :
    (((level d nodes).filter (mentionsAny ids)).map (pruned ids)).Sublist
      (level d (pruneNodes ids nodes)) := by
  induction d with
  | zero => exact map_pruned_sublist ids nodes
  | succ d ih =>
      rw [level_succ, level_succ, filter_flatMap_kids, List.map_flatMap]
      refine List.Sublist.trans ?_ (ih.flatMap kids)
      rw [List.flatMap_map]
      refine List.Sublist.flatMap_right _ fun n _ => ?_
      rw [kids_pruned]
      exact map_pruned_sublist ids n.kids

theorem level_sublist (hnodes : nodes.Sublist others) (d : Nat) :
    (level d nodes).Sublist (level d others) := by
  induction d with
  | zero => exact hnodes
  | succ d ih =>
      rw [level_succ, level_succ]
      exact ih.flatMap kids

/-! ## Columns that are not mentioned -/

theorem leaf_mem_forColumns {c : Column} (hc : c ∈ columns) (hid : c.fieldId ∉ idsOfNodes nodes) :
    leaf c ∈ forColumns nodes columns := by
  rw [(forColumns_perm nodes columns).mem_iff, idsOfNodes_pruneNodes]
  refine List.mem_append_left _ (List.mem_map.2 ⟨c, List.mem_filter.2 ⟨hc, ?_⟩, rfl⟩)
  simp [hid]

end HeaderNode

/-- The cell stands over one column, from the top of the header to its foot. -/
structure HeaderCell.StandsAlone (cell : HeaderCell) (c : Column) (l : HeaderLayout) : Prop where
  label : cell.label = c.fieldName
  fieldIds : cell.fieldIds = [c.fieldId]
  childless : cell.hasChildren = false
  colSpan : cell.colSpan = 1
  rowSpan : cell.rowSpan = l.depth

namespace HeaderLayout

open HeaderNode

theorem standsAlone_leaf {nodes : List HeaderNode} {c : Column} (hc : leaf c ∈ nodes) :
    ∃ cell ∈ (ofNodes nodes).rows.getD 0 [], cell.StandsAlone c (ofNodes nodes) := by
  refine ⟨(leaf c).cell (heightOfNodes nodes) 0, ?_, rfl, rfl, rfl, rfl, ?_⟩
  · rw [row_ofNodes]
    exact List.mem_map_of_mem hc
  · rw [depth_ofNodes]
    rfl

/-- A header over columns with ids of their own, whatever the shape of its
description.  The top row shows ids of columns only: one that the description
lists as often as it lists it, and any other once, in a cell of its own.  On each
level the nodes with a column left have, in their order, cells with their labels
over the columns left. -/
theorem ofColumns_shows_columns
    (description : Option (List HeaderNode)) (columns : List Column)
    (hcolumns : (columns.map (·.fieldId)).Nodup) :
    let nodes := description.getD []
    let ids := columns.map (·.fieldId)
    let l := ofColumns description columns
    (∀ id ∈ l.topIds, id ∈ ids) ∧
    (∀ id ∈ ids, id ∈ idsOfNodes nodes → l.topIds.count id = (idsOfNodes nodes).count id) ∧
    (∀ c ∈ columns, c.fieldId ∉ idsOfNodes nodes →
      l.topIds.count c.fieldId = 1 ∧ ∃ cell ∈ l.rows.getD 0 [], cell.StandsAlone c l) ∧
    ∀ d, (((level d nodes).filter (mentionsAny ids)).map fun n =>
        (n.label, d, n.fieldIds.filter ids.contains)).Sublist
      ((l.rows.getD d []).map fun cell => (cell.label, cell.depth, cell.fieldIds)) := by
  intro nodes ids l
  have hperm : l.topIds.Perm (ids.filter (fun id => !(idsOfNodes nodes).contains id) ++
      (idsOfNodes nodes).filter ids.contains) := by
    rw [show l.topIds = idsOfNodes (forColumns nodes columns) from topIds_ofNodes _]
    exact idsOfNodes_forColumns_perm nodes columns
  refine ⟨?_, ?_, ?_, ?_⟩
  · intro id hid
    rcases List.mem_append.1 (hperm.mem_iff.1 hid) with hother | hlisted
    · exact (List.mem_filter.1 hother).1
    · exact List.contains_iff_mem.1 (List.mem_filter.1 hlisted).2
  · intro id hid hlisted
    have hnone : id ∉ ids.filter fun id => !(idsOfNodes nodes).contains id := by
      simp [hlisted]
    rw [hperm.count_eq, List.count_append, List.count_eq_zero.2 hnone, Nat.zero_add,
      List.count_filter (List.contains_iff_mem.2 hid)]
  · intro c hc hlisted
    have hid : c.fieldId ∈ ids := List.mem_map_of_mem hc
    have hnone : c.fieldId ∉ (idsOfNodes nodes).filter ids.contains := by
      simp [hlisted]
    have hnew : (ids.filter fun id => !(idsOfNodes nodes).contains id).count c.fieldId =
        ids.count c.fieldId :=
      List.count_filter (by simp [hlisted])
    constructor
    · rw [hperm.count_eq, List.count_append, List.count_eq_zero.2 hnone, Nat.add_zero, hnew,
        List.count_eq_one_of_mem hcolumns hid]
    · exact standsAlone_leaf (leaf_mem_forColumns hc hlisted)
  · intro d
    have hkept : (((level d nodes).filter (mentionsAny ids)).map (pruned ids)).Sublist
        (level d (forColumns nodes columns)) :=
      (level_pruneNodes ids nodes d).trans
        (level_sublist (sublist_foldl_placeColumn columns (pruneNodes ids nodes, 0)) d)
    have hcells := hkept.map fun n => (n.label, d, n.fieldIds)
    rw [List.map_map] at hcells
    rw [show l.rows.getD d [] = _ from row_ofNodes _ d, List.map_map]
    simpa only [Function.comp_def, label_pruned, fieldIds_pruned, cell_label, cell_depth,
      cell_fieldIds] using hcells

/-- A description in which an id stands twice, in a node with ids of its own and
in the one below it, a node stands over nothing, and a column is gone. -/
def irregular : List HeaderNode :=
  [⟨"Size", some ["w"], some [⟨"Width", some ["w", "x"], none⟩]⟩, ⟨"Nothing", none, some []⟩,
    ⟨"Gone", none, some [⟨"X", some ["x"], none⟩]⟩]

theorem ofColumns_shows_columns_irregular :
    let columns : List Column := [.plain "note" "Note" "text", .plain "w" "W" "text"]
    let l := ofColumns (some irregular) columns
    (columns.map (·.fieldId)).Nodup ∧ l.topIds = ["note", "w", "w"] ∧ l.topIds.count "w" = 2 ∧
      (∃ cell ∈ l.rows.getD 0 [], cell.StandsAlone (.plain "note" "Note" "text") l) ∧
      [("Width", 1, ["w"])].Sublist
        ((l.rows.getD 1 []).map fun cell => (cell.label, cell.depth, cell.fieldIds)) := by
  intro columns l
  have hcolumns : (columns.map (·.fieldId)).Nodup := by decide
  obtain ⟨-, hlisted, hother, hlevels⟩ := ofColumns_shows_columns (some irregular) columns hcolumns
  exact ⟨hcolumns, by decide, hlisted "w" (by decide) (by decide),
    (hother (.plain "note" "Note" "text") List.mem_cons_self (by decide)).2, hlevels 1⟩

end HeaderLayout

end RecordGrid
