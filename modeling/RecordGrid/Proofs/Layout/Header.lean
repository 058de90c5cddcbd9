import Mathlib.Algebra.GroupWithZero.Nat
import RecordGrid.Proofs.Layout.Placement

/-!
# Headers as tables

The cells of a header, each as wide as the columns under it and as high as it
says, fill a rectangle: at every level they stand over all columns.  A row of the
header holds the cells of the nodes of its level, and right below a group stand
the cells of its nodes, over the same columns.
-/

namespace RecordGrid

/-- The cell takes part in a row, its own or one that it reaches down to. -/
def HeaderCell.covers (d : Nat) (c : HeaderCell) : Bool :=
  decide (c.depth ≤ d ∧ d < c.depth + c.rowSpan)

/-- How many columns the cells that take part in a row stand over. -/
def HeaderCell.widthAt (d : Nat) (cells : List HeaderCell) : Nat :=
  ((cells.filter (·.covers d)).map (·.colSpan)).sum

namespace HeaderLayout

def cells (l : HeaderLayout) : List HeaderCell := l.rows.flatten

/-- The cells right below a cell, over its columns. -/
def childrenOf (l : HeaderLayout) (c : HeaderCell) : List HeaderCell :=
  (l.rows.getD (c.depth + 1) []).filter fun below => below.fieldIds.all c.fieldIds.contains

end HeaderLayout

namespace HeaderCell

variable {d : Nat} {cells others : List HeaderCell}

theorem covers_iff {c : HeaderCell} :
    c.covers d = true ↔ c.depth ≤ d ∧ d < c.depth + c.rowSpan :=
  decide_eq_true_iff

theorem widthAt_append : widthAt d (cells ++ others) = widthAt d cells + widthAt d others := by
  simp only [widthAt, List.filter_append, List.map_append, List.sum_append]

theorem widthAt_cons (c : HeaderCell) :
    widthAt d (c :: cells) = (if c.covers d then c.colSpan else 0) + widthAt d cells := by
  cases hc : c.covers d <;> simp [widthAt, hc]

theorem widthAt_eq_zero (hcells : ∀ c ∈ cells, d < c.depth) : widthAt d cells = 0 := by
  have hnone : cells.filter (·.covers d) = [] := by
    rw [List.filter_eq_nil_iff]
    intro c hc
    have hbelow := hcells c hc
    rw [covers_iff]
    omega
  rw [widthAt, hnone]
  rfl

theorem widthAt_perm (hperm : cells.Perm others) : widthAt d cells = widthAt d others :=
  ((hperm.filter _).map _).sum_nat

end HeaderCell

namespace HeaderNode

variable {rows depth d : Nat} {n : HeaderNode} {nodes : List HeaderNode}

/-! ## The cell of a node -/

/-- The cell of a node, without those of the nodes below. -/
def cell (rows depth : Nat) (n : HeaderNode) : HeaderCell where
  label := n.label
  depth := depth
  colSpan := max n.fieldIds.length 1
  rowSpan := if n.hasChildren then 1 else rows - depth
  fieldIds := n.fieldIds
  hasChildren := n.hasChildren

@[simp] theorem cell_label : (n.cell rows depth).label = n.label := rfl

@[simp] theorem cell_depth : (n.cell rows depth).depth = depth := rfl

@[simp] theorem cell_fieldIds : (n.cell rows depth).fieldIds = n.fieldIds := rfl

@[simp] theorem cell_hasChildren : (n.cell rows depth).hasChildren = n.hasChildren := rfl

theorem cells_eq (rows depth : Nat) (n : HeaderNode) :
    cells rows depth n = n.cell rows depth :: cellsOfNodes rows (depth + 1) n.kids := by
  obtain ⟨_, _, _ | nodes⟩ := n <;> rfl

theorem cellsOfNodes_eq_flatMap (rows depth : Nat) (nodes : List HeaderNode) :
    cellsOfNodes rows depth nodes = nodes.flatMap (cells rows depth) := by
  induction nodes with
  | nil => rfl
  | cons node rest ih => rw [cellsOfNodes, ih, List.flatMap_cons]

theorem cell_covers_own (n : HeaderNode) (hdepth : depth < rows) :
    (n.cell rows depth).covers depth = true := by
  rw [HeaderCell.covers_iff]
  simp only [cell]
  split <;> omega

theorem Described.colSpan_cell (h : n.Described) :
    (n.cell rows depth).colSpan = n.fieldIds.length := by
  have hpositive : 0 < n.fieldIds.length := List.length_pos_iff.2 h.fieldIds_ne_nil
  simp only [cell]
  omega

theorem hasChildren_iff : n.hasChildren = true ↔ n.kids ≠ [] := by
  simp [hasChildren]

theorem hasChildren_of_kids (hkids : n.kids = []) : n.hasChildren = false := by
  simp [hasChildren, hkids]

/-! ## How far down cells stand -/

theorem depth_of_mem_cells {c : HeaderCell} (hc : c ∈ cells rows depth n) :
    depth ≤ c.depth ∧ c.depth < depth + n.height := by
  induction n using inductionBelow generalizing depth with
  | step n ih =>
      rw [cells_eq, cellsOfNodes_eq_flatMap] at hc
      rw [height_eq]
      rcases List.mem_cons.1 hc with rfl | hbelow
      · simp only [cell_depth]
        omega
      · obtain ⟨kid, hkid, hc⟩ := List.mem_flatMap.1 hbelow
        have hdepth := ih kid hkid hc
        have hheight := height_le_heightOfNodes hkid
        omega

theorem depth_of_mem_cellsOfNodes {c : HeaderCell} (hc : c ∈ cellsOfNodes rows depth nodes) :
    depth ≤ c.depth ∧ c.depth < depth + heightOfNodes nodes := by
  rw [cellsOfNodes_eq_flatMap] at hc
  obtain ⟨n, hn, hc⟩ := List.mem_flatMap.1 hc
  have hdepth := depth_of_mem_cells hc
  have hheight := height_le_heightOfNodes hn
  omega

/-! ## Every row is full -/

theorem widthAt_cellsOfNodes_of
    (hnodes : ∀ n ∈ nodes, HeaderCell.widthAt d (cells rows depth n) = n.fieldIds.length) :
    HeaderCell.widthAt d (cellsOfNodes rows depth nodes) = (idsOfNodes nodes).length := by
  induction nodes with
  | nil => rfl
  | cons node rest ih =>
      obtain ⟨hnode, hrest⟩ := List.forall_mem_cons.1 hnodes
      rw [cellsOfNodes, HeaderCell.widthAt_append, hnode, ih hrest, idsOfNodes_cons,
        List.length_append]

/-- The cells of a node stand over all its columns, in every row from its own to
the last. -/
theorem Described.widthAt_cells (h : n.Described) (hfits : depth + n.height ≤ rows)
    (hd : depth ≤ d) (hrows : d < rows) :
    HeaderCell.widthAt d (cells rows depth n) = n.fieldIds.length := by
  induction h generalizing depth with
  | @leaf n hids hkids =>
      have hcovers : (n.cell rows depth).covers d = true := by
        rw [HeaderCell.covers_iff]
        simp only [cell, hasChildren_of_kids hkids, Bool.false_eq_true, if_false]
        omega
      rw [cells_eq, hkids, HeaderCell.widthAt_cons, hcovers, if_pos rfl,
        (Described.leaf hids hkids).colSpan_cell]
      rfl
  | @group n hids hkids below ih =>
      have hn : n.Described := .group hids hkids below
      rw [height_eq] at hfits
      rw [cells_eq, HeaderCell.widthAt_cons]
      rcases Nat.eq_or_lt_of_le hd with rfl | hlower
      · -- in its own row the node itself stands over its columns, and nothing below it does
        have hbelow : HeaderCell.widthAt depth (cellsOfNodes rows (depth + 1) n.kids) = 0 :=
          HeaderCell.widthAt_eq_zero fun c hc => (depth_of_mem_cellsOfNodes hc).1
        rw [n.cell_covers_own hrows, if_pos rfl, hbelow, hn.colSpan_cell, Nat.add_zero]
      · have hcovers : (n.cell rows depth).covers d = false := by
          rw [Bool.eq_false_iff, Ne, HeaderCell.covers_iff]
          simp only [cell, hasChildren_iff.2 hkids, if_true]
          omega
        have hbelow : ∀ kid ∈ n.kids,
            HeaderCell.widthAt d (cells rows (depth + 1) kid) = kid.fieldIds.length := by
          intro kid hkid
          have hheight := height_le_heightOfNodes hkid
          exact ih kid hkid (by omega) hlower
        rw [hcovers, widthAt_cellsOfNodes_of hbelow, fieldIds_eq, hids]
        simp

/-! ## Levels -/

/-- The nodes so many levels below the top ones, from left to right. -/
def level : Nat → List HeaderNode → List HeaderNode
  | 0, nodes => nodes
  | d + 1, nodes => level d (nodes.flatMap kids)

theorem level_succ (d : Nat) (nodes : List HeaderNode) :
    level (d + 1) nodes = (level d nodes).flatMap kids := by
  induction d generalizing nodes with
  | zero => rfl
  | succ d ih => exact ih (nodes.flatMap kids)

theorem described_level (hnodes : ∀ n ∈ nodes, n.Described) :
    ∀ n ∈ level d nodes, n.Described := by
  induction d with
  | zero => exact hnodes
  | succ d ih =>
      intro kid hkid
      rw [level_succ] at hkid
      obtain ⟨n, hn, hkid⟩ := List.mem_flatMap.1 hkid
      exact (ih n hn).kids hkid

theorem level_height (hn : n ∈ level d nodes) : d + n.height ≤ heightOfNodes nodes := by
  induction d generalizing n with
  | zero => simpa [level] using height_le_heightOfNodes hn
  | succ d ih =>
      rw [level_succ] at hn
      obtain ⟨parent, hparent, hkid⟩ := List.mem_flatMap.1 hn
      have hparent := ih hparent
      have hheight := height_le_heightOfNodes hkid
      rw [height_eq] at hparent
      omega

theorem idsOfNodes_kids_sublist (nodes : List HeaderNode) :
    (idsOfNodes (nodes.flatMap kids)).Sublist (idsOfNodes nodes) := by
  induction nodes with
  | nil => exact .refl _
  | cons node rest ih =>
      rw [List.flatMap_cons, idsOfNodes_append, idsOfNodes_cons, fieldIds_eq]
      exact (List.sublist_append_right ..).append ih

theorem idsOfNodes_level_sublist (d : Nat) (nodes : List HeaderNode) :
    (idsOfNodes (level d nodes)).Sublist (idsOfNodes nodes) := by
  induction d with
  | zero => exact .refl _
  | succ d ih =>
      rw [level_succ]
      exact (idsOfNodes_kids_sublist _).trans ih

/-- The cells of a level are those of its nodes. -/
theorem cellsOfNodes_level (nodes : List HeaderNode) (rows depth d : Nat) :
    (cellsOfNodes rows depth nodes).filter (fun c => c.depth == depth + d) =
      (level d nodes).map (cell rows (depth + d)) := by
  induction d generalizing depth nodes with
  | zero =>
      induction nodes with
      | nil => rfl
      | cons node rest ih =>
          have hbelow : (cellsOfNodes rows (depth + 1) node.kids).filter
              (fun c => c.depth == depth) = [] := by
            rw [List.filter_eq_nil_iff]
            intro c hc
            have hdepth := depth_of_mem_cellsOfNodes hc
            simp only [beq_iff_eq]
            omega
          simp only [Nat.add_zero, level] at ih ⊢
          simp [cellsOfNodes, cells_eq, List.filter_append, hbelow, ih]
  | succ d ih =>
      have hbelow : (cellsOfNodes rows depth nodes).filter (fun c => c.depth == depth + (d + 1)) =
          (cellsOfNodes rows (depth + 1) (nodes.flatMap kids)).filter
            (fun c => c.depth == depth + (d + 1)) := by
        rw [cellsOfNodes_eq_flatMap, cellsOfNodes_eq_flatMap, List.flatMap_assoc,
          List.filter_flatMap, List.filter_flatMap]
        congr 1
        funext node
        rw [cells_eq, List.filter_cons_of_neg (by simp), cellsOfNodes_eq_flatMap]
      have hlevel := ih (nodes.flatMap kids) (depth + 1)
      rw [Nat.add_right_comm, Nat.add_assoc] at hlevel
      rw [hbelow, hlevel, level]

/-! ## Nodes below a node -/

theorem fieldIds_subset_of_mem_kids {kid : HeaderNode} (hkid : kid ∈ n.kids) :
    kid.fieldIds ⊆ n.fieldIds := by
  intro id hid
  rw [fieldIds_eq, idsOfNodes_eq_flatMap]
  exact List.mem_append_right _ (List.mem_flatMap.2 ⟨kid, hkid, hid⟩)

theorem fieldIds_subset_idsOfNodes (hn : n ∈ nodes) : n.fieldIds ⊆ idsOfNodes nodes := by
  intro id hid
  rw [idsOfNodes_eq_flatMap]
  exact List.mem_flatMap.2 ⟨n, hn, hid⟩

/-- No node below other nodes stands over columns of this one. -/
theorem filter_kids_eq_nil {others : List HeaderNode} (hothers : ∀ n ∈ others, n.Described)
    (hapart : (idsOfNodes others).Disjoint n.fieldIds) :
    (others.flatMap kids).filter (fun kid => kid.fieldIds.all n.fieldIds.contains) = [] := by
  rw [List.filter_eq_nil_iff]
  intro kid hkid hwithin
  obtain ⟨other, hother, hkid⟩ := List.mem_flatMap.1 hkid
  obtain ⟨id, hid⟩ := List.exists_mem_of_ne_nil _ ((hothers other hother).kids hkid).fieldIds_ne_nil
  have hother : id ∈ idsOfNodes others :=
    fieldIds_subset_idsOfNodes hother (fieldIds_subset_of_mem_kids hkid hid)
  have hn : id ∈ n.fieldIds := List.contains_iff_mem.1 (List.all_eq_true.1 hwithin id hid)
  exact hapart hother hn

end HeaderNode

namespace HeaderLayout

open HeaderNode

variable {d : Nat} {n : HeaderNode} {nodes : List HeaderNode}

theorem depth_ofNodes (nodes : List HeaderNode) :
    (ofNodes nodes).depth = heightOfNodes nodes := by
  simp [depth, ofNodes]

theorem cells_of_row (nodes : List HeaderNode) (d : Nat) :
    (cellsOfNodes (heightOfNodes nodes) 0 nodes).filter (fun c => c.depth == d) =
      (level d nodes).map (cell (heightOfNodes nodes) d) := by
  have hlevel := cellsOfNodes_level nodes (heightOfNodes nodes) 0 d
  rwa [Nat.zero_add] at hlevel

/-- A row holds the cells of the nodes of its level. -/
theorem row_ofNodes (nodes : List HeaderNode) (d : Nat) :
    (ofNodes nodes).rows.getD d [] = (level d nodes).map (cell (heightOfNodes nodes) d) := by
  have hlevel := cells_of_row nodes d
  by_cases hd : d < heightOfNodes nodes
  · simpa [ofNodes, List.getD, hd] using hlevel
  · have hnone : level d nodes = [] := by
      rw [List.eq_nil_iff_forall_not_mem]
      intro n hn
      have hheight := level_height hn
      rw [height_eq] at hheight
      omega
    simp [ofNodes, List.getD, hd, hnone]

/-- Rows lose no cell and hold none twice. -/
theorem filter_flatten_perm {α : Type} (f : α → Nat) (as : List α) (bound : Nat) :
    ((List.range bound).map fun d => as.filter fun a => f a == d).flatten.Perm
      (as.filter fun a => decide (f a < bound)) := by
  induction bound with
  | zero => simp
  | succ bound ih =>
      have hsplit := List.filter_append_perm (fun a => decide (f a < bound))
        (as.filter fun a => decide (f a < bound + 1))
      rw [List.filter_filter, List.filter_filter] at hsplit
      rw [List.range_succ, List.map_append, List.flatten_append, List.map_singleton,
        List.flatten_singleton]
      refine (ih.append_right _).trans ?_
      convert hsplit using 3
      · funext a
        grind
      · funext a
        grind

theorem cells_ofNodes (nodes : List HeaderNode) :
    (ofNodes nodes).cells.Perm (cellsOfNodes (heightOfNodes nodes) 0 nodes) := by
  have hall : (cellsOfNodes (heightOfNodes nodes) 0 nodes).filter
      (fun c => decide (c.depth < heightOfNodes nodes)) =
        cellsOfNodes (heightOfNodes nodes) 0 nodes := by
    rw [List.filter_eq_self]
    intro c hc
    have hdepth := depth_of_mem_cellsOfNodes hc
    simp only [decide_eq_true_eq]
    omega
  have hperm := filter_flatten_perm HeaderCell.depth
    (cellsOfNodes (heightOfNodes nodes) 0 nodes) (heightOfNodes nodes)
  rwa [hall] at hperm

theorem mem_cells_ofNodes {c : HeaderCell} :
    c ∈ (ofNodes nodes).cells ↔
      ∃ d, ∃ n ∈ level d nodes, c = n.cell (heightOfNodes nodes) d := by
  rw [(cells_ofNodes nodes).mem_iff]
  constructor
  · intro hc
    have hrow : c ∈ (level c.depth nodes).map (cell (heightOfNodes nodes) c.depth) := by
      rw [← cells_of_row]
      exact List.mem_filter.2 ⟨hc, beq_self_eq_true _⟩
    obtain ⟨n, hn, hcell⟩ := List.mem_map.1 hrow
    exact ⟨c.depth, n, hn, hcell.symm⟩
  · rintro ⟨d, n, hn, rfl⟩
    have hrow : n.cell (heightOfNodes nodes) d ∈
        (level d nodes).map (cell (heightOfNodes nodes) d) :=
      List.mem_map_of_mem hn
    rw [← cells_of_row] at hrow
    exact (List.mem_filter.1 hrow).1

theorem childrenOf_cell (hnodes : ∀ n ∈ nodes, n.Described) (hids : (idsOfNodes nodes).Nodup)
    (hn : n ∈ level d nodes) :
    (ofNodes nodes).childrenOf (n.cell (heightOfNodes nodes) d) =
      n.kids.map (cell (heightOfNodes nodes) (d + 1)) := by
  obtain ⟨as, bs, hlevel⟩ := List.append_of_mem hn
  have hdescribed : ∀ m ∈ as ++ n :: bs, m.Described := by
    rw [← hlevel]
    exact described_level hnodes
  have hnodup : (idsOfNodes as ++ (n.fieldIds ++ idsOfNodes bs)).Nodup := by
    rw [← idsOfNodes_cons, ← idsOfNodes_append, ← hlevel]
    exact hids.sublist (idsOfNodes_level_sublist d nodes)
  have hbefore : (idsOfNodes as).Disjoint n.fieldIds :=
    fun id has hn => List.disjoint_of_nodup_append hnodup has (List.mem_append_left _ hn)
  have hafter : (idsOfNodes bs).Disjoint n.fieldIds :=
    fun id hbs hn => List.disjoint_of_nodup_append (List.Nodup.of_append_right hnodup) hn hbs
  have hown : n.kids.filter (fun kid => kid.fieldIds.all n.fieldIds.contains) = n.kids := by
    rw [List.filter_eq_self]
    intro kid hkid
    exact List.all_eq_true.2 fun id hid =>
      List.contains_iff_mem.2 (fieldIds_subset_of_mem_kids hkid hid)
  rw [childrenOf, cell_depth, row_ofNodes nodes, List.filter_map, level_succ, hlevel,
    List.flatMap_append, List.flatMap_cons]
  simp only [Function.comp_def, cell_fieldIds, List.filter_append, hown,
    filter_kids_eq_nil (fun m hm => hdescribed m (List.mem_append_left _ hm)) hbefore,
    filter_kids_eq_nil
      (fun m hm => hdescribed m (List.mem_append_right _ (List.mem_cons_of_mem _ hm))) hafter,
    List.nil_append, List.append_nil]

/-! ## The rectangle -/

/-- In every row the cells stand over all ids. -/
theorem widthAt_ofNodes (hnodes : ∀ n ∈ nodes, n.Described) (hd : d < (ofNodes nodes).depth) :
    HeaderCell.widthAt d (ofNodes nodes).cells = (idsOfNodes nodes).length := by
  rw [depth_ofNodes] at hd
  rw [HeaderCell.widthAt_perm (cells_ofNodes nodes)]
  refine widthAt_cellsOfNodes_of fun n hn => ?_
  have hheight := height_le_heightOfNodes hn
  exact (hnodes n hn).widthAt_cells (by omega) (Nat.zero_le d) hd

theorem childless_ofNodes
    (hnodes : ∀ n ∈ nodes, n.Described) (hids : (idsOfNodes nodes).Nodup)
    {c : HeaderCell} (hc : c ∈ (ofNodes nodes).cells) (hchildless : c.hasChildren = false) :
    c.depth + c.rowSpan = (ofNodes nodes).depth ∧ (ofNodes nodes).childrenOf c = [] := by
  obtain ⟨d, n, hn, rfl⟩ := mem_cells_ofNodes.1 hc
  rw [cell_hasChildren] at hchildless
  have hkids : n.kids = [] := by simpa [hasChildren] using hchildless
  have hheight := level_height hn
  constructor
  · rw [depth_ofNodes]
    simp only [cell, hchildless, Bool.false_eq_true, if_false]
    omega
  · rw [childrenOf_cell hnodes hids hn, hkids, List.map_nil]

theorem group_ofNodes
    (hnodes : ∀ n ∈ nodes, n.Described) (hids : (idsOfNodes nodes).Nodup)
    {c : HeaderCell} (hc : c ∈ (ofNodes nodes).cells) (hgroup : c.hasChildren = true) :
    c.colSpan = (((ofNodes nodes).childrenOf c).map (·.colSpan)).sum ∧
      c.fieldIds = ((ofNodes nodes).childrenOf c).flatMap (·.fieldIds) := by
  obtain ⟨d, n, hn, rfl⟩ := mem_cells_ofNodes.1 hc
  have hdescribed : n.Described := described_level hnodes n hn
  have hown : n.fieldIds = idsOfNodes n.kids := hdescribed.fieldIds_of_hasChildren hgroup
  rw [childrenOf_cell hnodes hids hn, List.map_map, List.flatMap_map, hdescribed.colSpan_cell,
    cell_fieldIds, hown, idsOfNodes_eq_flatMap]
  refine ⟨?_, rfl⟩
  rw [List.length_flatMap]
  congr 1
  refine List.map_congr_left fun kid hkid => ?_
  exact (hdescribed.kids hkid).colSpan_cell.symm

/-- A description that is well formed and lists no id twice gives a header that
is a full rectangle over distinct columns: in every row the cells that take part
in it stand over as many columns as there are, cells without children reach the
last row, and a cell with children is as wide as they are together. -/
theorem ofColumns_tiles
    (description : Option (List HeaderNode)) (columns : List Column)
    (hdescribed : ∀ n ∈ description.getD [], n.Described)
    (hids : (idsOfNodes (description.getD [])).Nodup)
    (hcolumns : (columns.map (·.fieldId)).Nodup) :
    let l := ofColumns description columns
    (∀ d < l.depth, HeaderCell.widthAt d l.cells = columns.length) ∧
    (∀ c ∈ l.cells, c.hasChildren = false →
      c.depth + c.rowSpan = l.depth ∧ l.childrenOf c = []) ∧
    (∀ c ∈ l.cells, c.hasChildren = true →
      c.colSpan = ((l.childrenOf c).map (·.colSpan)).sum ∧
        c.fieldIds = (l.childrenOf c).flatMap (·.fieldIds)) := by
  intro l
  have hnodes : ∀ n ∈ forColumns (description.getD []) columns, n.Described :=
    described_forColumns hdescribed
  have hperm : (idsOfNodes (forColumns (description.getD []) columns)).Perm
      (columns.map (·.fieldId)) :=
    idsOfNodes_forColumns hids hcolumns
  have hdistinct : (idsOfNodes (forColumns (description.getD []) columns)).Nodup :=
    hperm.nodup_iff.2 hcolumns
  refine ⟨?_, fun c hc => childless_ofNodes hnodes hdistinct hc,
    fun c hc => group_ofNodes hnodes hdistinct hc⟩
  intro d hd
  calc HeaderCell.widthAt d l.cells
      = (idsOfNodes (forColumns (description.getD []) columns)).length := widthAt_ofNodes hnodes hd
    _ = (columns.map (·.fieldId)).length := hperm.length_eq
    _ = columns.length := List.length_map ..

/-- Sizes with bounds in a group of their own, beside what is no longer there. -/
def sizes : List HeaderNode :=
  [⟨"Size", none, some
      [⟨"Width", some ["w"], none⟩, ⟨"Range", none, some [⟨"Bounds", some ["lo", "hi"], none⟩]⟩]⟩,
    ⟨"Gone", none, some [⟨"X", some ["x"], none⟩]⟩]

theorem described_sizes : ∀ n ∈ sizes, n.Described := by
  have hleaf (label id : String) (rest : List String) :
      Described ⟨label, some (id :: rest), none⟩ :=
    .leaf (List.cons_ne_nil id rest) rfl
  have hgroup (label : String) (kid : HeaderNode) (rest : List HeaderNode)
      (below : ∀ n ∈ kid :: rest, n.Described) : Described ⟨label, none, some (kid :: rest)⟩ :=
    .group rfl (List.cons_ne_nil kid rest) below
  have hbounds := hgroup "Range" _ [] (List.forall_mem_singleton.2 (hleaf "Bounds" "lo" ["hi"]))
  have hwidth := hleaf "Width" "w" []
  have hgone := hgroup "Gone" _ [] (List.forall_mem_singleton.2 (hleaf "X" "x" []))
  have hsize := hgroup "Size" _ _
    (List.forall_mem_cons.2 ⟨hwidth, List.forall_mem_singleton.2 hbounds⟩)
  exact List.forall_mem_cons.2 ⟨hsize, List.forall_mem_singleton.2 hgone⟩

/-- The width, both bounds and a note fill the three rows. -/
theorem ofColumns_tiles_sizes :
    let columns : List Column :=
      [.plain "w" "W" "text", .plain "hi" "Hi" "text", .plain "note" "Note" "text",
        .plain "lo" "Lo" "text"]
    let l := ofColumns (some sizes) columns
    (∀ n ∈ sizes, n.Described) ∧ (idsOfNodes sizes).Nodup ∧ (columns.map (·.fieldId)).Nodup ∧
      l.depth = 3 ∧ (∀ d < 3, HeaderCell.widthAt d l.cells = 4) ∧
      ∃ c ∈ l.cells, c.label = "Size" ∧ c.colSpan = ((l.childrenOf c).map (·.colSpan)).sum ∧
        (l.childrenOf c).map (·.label) = ["Width", "Range"] := by
  intro columns l
  have hids : (idsOfNodes sizes).Nodup := by decide
  have hcolumns : (columns.map (·.fieldId)).Nodup := by decide
  let size : HeaderCell := ⟨"Size", 0, 3, 1, ["w", "lo", "hi"], true⟩
  have hlayout : l.depth = 3 ∧ size ∈ l.cells ∧
      (l.childrenOf size).map (·.label) = ["Width", "Range"] := by
    decide +kernel
  obtain ⟨hdepth, hsize, hbelow⟩ := hlayout
  obtain ⟨hfull, -, hgroups⟩ := ofColumns_tiles (some sizes) columns described_sizes hids hcolumns
  exact ⟨described_sizes, hids, hcolumns, hdepth, hdepth ▸ hfull, size, hsize, rfl,
    (hgroups size hsize rfl).1, hbelow⟩

end HeaderLayout

end RecordGrid
