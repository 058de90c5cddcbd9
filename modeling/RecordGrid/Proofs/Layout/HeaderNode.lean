import Mathlib.Data.List.Basic
import RecordGrid.Layout.Header

/-!
# Header descriptions and what is left of them

A description is well formed when every node either lists ids or holds nodes,
and never both or neither.  Dropping the ids without a column keeps it so: a leaf
that loses all its ids goes, and so does a group that loses all its leaves.  What
remains lists the ids that have a column, in the order they stood in.
-/

namespace RecordGrid

namespace HeaderNode

/-! ## Trees as lists of nodes -/

theorem idsOfNodes_eq_flatMap (nodes : List HeaderNode) :
    idsOfNodes nodes = nodes.flatMap fieldIds := by
  induction nodes with
  | nil => rfl
  | cons node rest ih => rw [idsOfNodes, ih, List.flatMap_cons]

@[simp] theorem idsOfNodes_nil : idsOfNodes [] = [] := rfl

@[simp] theorem idsOfNodes_cons (node : HeaderNode) (rest : List HeaderNode) :
    idsOfNodes (node :: rest) = node.fieldIds ++ idsOfNodes rest := rfl

@[simp] theorem idsOfNodes_append (nodes others : List HeaderNode) :
    idsOfNodes (nodes ++ others) = idsOfNodes nodes ++ idsOfNodes others := by
  simp only [idsOfNodes_eq_flatMap, List.flatMap_append]

theorem fieldIds_eq (n : HeaderNode) : n.fieldIds = n.ownIds ++ idsOfNodes n.kids := by
  obtain ⟨_, _, _ | nodes⟩ := n <;> rfl

theorem height_eq (n : HeaderNode) : n.height = heightOfNodes n.kids + 1 := by
  obtain ⟨_, _, _ | nodes⟩ := n <;> rfl

theorem height_le_heightOfNodes {n : HeaderNode} {nodes : List HeaderNode} (hn : n ∈ nodes) :
    n.height ≤ heightOfNodes nodes := by
  induction nodes with
  | nil => exact absurd hn List.not_mem_nil
  | cons node rest ih =>
      rw [heightOfNodes]
      rcases List.mem_cons.1 hn with rfl | hn
      · exact Nat.le_max_left ..
      · exact Nat.le_trans (ih hn) (Nat.le_max_right ..)

theorem height_lt_of_mem_kids {n kid : HeaderNode} (hkid : kid ∈ n.kids) :
    kid.height < n.height := by
  rw [n.height_eq]
  exact Nat.lt_succ_of_le (height_le_heightOfNodes hkid)

/-- What holds of a node as soon as it holds of those right below it holds of
every node. -/
@[elab_as_elim]
theorem inductionBelow {P : HeaderNode → Prop}
    (step : ∀ n : HeaderNode, (∀ kid ∈ n.kids, P kid) → P n) (n : HeaderNode) : P n := by
  induction hheight : n.height using Nat.strongRecOn generalizing n with
  | _ height ih =>
      subst hheight
      exact step n fun kid hkid => ih kid.height (height_lt_of_mem_kids hkid) kid rfl

theorem pruneNodes_eq_filterMap (present : List String) (nodes : List HeaderNode) :
    pruneNodes present nodes = nodes.filterMap (prune? present) := by
  induction nodes with
  | nil => rfl
  | cons node rest ih =>
      rw [pruneNodes, ih, List.filterMap_cons]
      cases prune? present node <;> rfl

/-! ## Well-formed descriptions -/

/-- A leaf lists ids, a group holds nodes that are well formed themselves. -/
inductive Described : HeaderNode → Prop
  | leaf {n : HeaderNode} (hids : n.ownIds ≠ []) (hkids : n.kids = []) : Described n
  | group {n : HeaderNode} (hids : n.ownIds = []) (hkids : n.kids ≠ [])
      (below : ∀ kid ∈ n.kids, Described kid) : Described n

theorem idsOfNodes_ne_nil {nodes : List HeaderNode} (hnodes : nodes ≠ [])
    (hids : ∀ n ∈ nodes, n.fieldIds ≠ []) : idsOfNodes nodes ≠ [] := by
  cases nodes with
  | nil => exact absurd rfl hnodes
  | cons node rest =>
      have hhead : node.fieldIds ≠ [] := hids node List.mem_cons_self
      simp [hhead]

theorem Described.fieldIds_ne_nil {n : HeaderNode} (h : n.Described) : n.fieldIds ≠ [] := by
  induction h with
  | leaf hids hkids => rw [fieldIds_eq, hkids]; simpa using hids
  | group hids hkids _ ih =>
      rw [fieldIds_eq, hids, List.nil_append]
      exact idsOfNodes_ne_nil hkids ih

theorem Described.kids {n kid : HeaderNode} (h : n.Described) (hkid : kid ∈ n.kids) :
    kid.Described := by
  cases h with
  | leaf _ hkids => rw [hkids] at hkid; exact absurd hkid List.not_mem_nil
  | group _ _ below => exact below kid hkid

/-- The ids of a group are those of its nodes. -/
theorem Described.fieldIds_of_hasChildren {n : HeaderNode} (h : n.Described)
    (hn : n.hasChildren = true) : n.fieldIds = idsOfNodes n.kids := by
  cases h with
  | leaf _ hkids => simp [hasChildren, hkids] at hn
  | group hids _ _ => rw [fieldIds_eq, hids, List.nil_append]

theorem described_leaf (c : Column) : (leaf c).Described :=
  .leaf (List.cons_ne_nil c.fieldId []) rfl

@[simp] theorem fieldIds_leaf (c : Column) : (leaf c).fieldIds = [c.fieldId] := rfl

/-! ## Pruning -/

/-- A node without the ids that are not present, whether any are left or not. -/
def pruned (present : List String) (n : HeaderNode) : HeaderNode :=
  ⟨n.label, n.columns.map (·.filter present.contains), n.children.map (pruneNodes present)⟩

variable {present : List String}

@[simp] theorem label_pruned (n : HeaderNode) : (n.pruned present).label = n.label := rfl

theorem ownIds_pruned (n : HeaderNode) :
    (n.pruned present).ownIds = n.ownIds.filter present.contains := by
  obtain ⟨_, _ | ids, _⟩ := n <;> rfl

theorem kids_pruned (n : HeaderNode) :
    (n.pruned present).kids = pruneNodes present n.kids := by
  obtain ⟨_, _, _ | nodes⟩ := n <;> rfl

/-- A node goes where it had ids and none of them is left. -/
theorem prune?_eq (n : HeaderNode) :
    prune? present n =
      if n.fieldIds = [] ∨ (n.pruned present).fieldIds ≠ [] then some (n.pruned present)
      else none := by
  have hpruned : n.pruned present =
      ⟨n.label, n.columns.map (·.filter present.contains), pruneChildren present n.children⟩ := by
    obtain ⟨_, _, _ | nodes⟩ := n <;> rfl
  obtain ⟨label, columns, children⟩ := n
  rw [hpruned, prune?]
  simp [List.isEmpty_iff]

theorem mem_prune? {n m : HeaderNode} (hids : n.fieldIds ≠ []) :
    prune? present n = some m ↔ n.pruned present = m ∧ m.fieldIds ≠ [] := by
  rw [prune?_eq, Option.ite_none_right_eq_some, or_iff_right hids, Option.some.injEq]
  constructor
  · rintro ⟨hsome, rfl⟩
    exact ⟨rfl, hsome⟩
  · rintro ⟨rfl, hsome⟩
    exact ⟨hsome, rfl⟩

theorem idsOfNodes_prune? (n : HeaderNode) :
    idsOfNodes (prune? present n).toList = (n.pruned present).fieldIds := by
  rw [prune?_eq]
  split
  · simp
  · next hnone =>
      rw [not_or, not_not] at hnone
      rw [hnone.2]
      rfl

theorem idsOfNodes_pruneNodes_of {nodes : List HeaderNode}
    (hnodes : ∀ n ∈ nodes, (n.pruned present).fieldIds = n.fieldIds.filter present.contains) :
    idsOfNodes (pruneNodes present nodes) = (idsOfNodes nodes).filter present.contains := by
  induction nodes with
  | nil => rfl
  | cons node rest ih =>
      obtain ⟨hnode, hrest⟩ := List.forall_mem_cons.mp hnodes
      rw [pruneNodes, idsOfNodes_append, idsOfNodes_prune?, hnode, ih hrest,
        idsOfNodes_cons, List.filter_append]

/-- Pruning drops the ids that are not present, and nothing else. -/
theorem fieldIds_pruned (n : HeaderNode) :
    (n.pruned present).fieldIds = n.fieldIds.filter present.contains := by
  induction n using inductionBelow with
  | step n ih =>
      rw [fieldIds_eq, fieldIds_eq, ownIds_pruned, kids_pruned, idsOfNodes_pruneNodes_of ih,
        List.filter_append]

theorem idsOfNodes_pruneNodes (nodes : List HeaderNode) :
    idsOfNodes (pruneNodes present nodes) = (idsOfNodes nodes).filter present.contains :=
  idsOfNodes_pruneNodes_of fun n _ => n.fieldIds_pruned

/-- What is left of a node is well formed, unless nothing is. -/
theorem Described.pruned {n : HeaderNode} (h : n.Described)
    (hleft : (n.pruned present).fieldIds ≠ []) : (n.pruned present).Described := by
  induction h with
  | @leaf node hids hkids =>
      have hkids' : (node.pruned present).kids = [] := by
        rw [kids_pruned, hkids]; rfl
      rw [fieldIds_eq, hkids', idsOfNodes_nil, List.append_nil] at hleft
      exact .leaf hleft hkids'
  | @group node hids hkids below ih =>
      have hids' : (node.pruned present).ownIds = [] := by
        rw [ownIds_pruned, hids]; rfl
      refine .group hids' ?_ ?_
      · intro hkids'
        rw [fieldIds_eq, hids', hkids'] at hleft
        exact hleft rfl
      · intro kid' hkid'
        rw [kids_pruned, pruneNodes_eq_filterMap, List.mem_filterMap] at hkid'
        obtain ⟨kid, hkid, hpruned⟩ := hkid'
        obtain ⟨rfl, hsome⟩ := (mem_prune? (below kid hkid).fieldIds_ne_nil).mp hpruned
        exact ih kid hkid hsome

theorem described_pruneNodes {nodes : List HeaderNode} (hnodes : ∀ n ∈ nodes, n.Described) :
    ∀ m ∈ pruneNodes present nodes, m.Described := by
  intro m hm
  rw [pruneNodes_eq_filterMap, List.mem_filterMap] at hm
  obtain ⟨n, hn, hpruned⟩ := hm
  obtain ⟨rfl, hsome⟩ := (mem_prune? (hnodes n hn).fieldIds_ne_nil).mp hpruned
  exact (hnodes n hn).pruned hsome

end HeaderNode

end RecordGrid
