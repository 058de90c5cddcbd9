import Mathlib.Data.List.Flatten
import Mathlib.Data.List.Infix
import RecordGrid.Proofs.Layout.Header

/-!
# The order of a header and the order of its columns

A column that is not mentioned is placed behind the top node that holds the
column before it, never within a node.  So the header reads like its columns
exactly where the mentioned columns stand in the order of the description and no
other column stands between two columns of one top node.
-/

namespace RecordGrid

/-- The ids of the top row, from left to right. -/
def HeaderLayout.topIds (l : HeaderLayout) : List String :=
  (l.rows.getD 0 []).flatMap (·.fieldIds)

namespace HeaderNode

variable {nodes : List HeaderNode} {columns : List Column} {ids : List String}

/-- The columns stand as the description has them: those it mentions are in its
order, and those of a top node side by side. -/
structure Follows (nodes : List HeaderNode) (ids : List String) : Prop where
  ordered : ids.filter (idsOfNodes nodes).contains = (idsOfNodes nodes).filter ids.contains
  together : ∀ n ∈ nodes, n.fieldIds.filter ids.contains <:+: ids

theorem fieldIds_infix_idsOfNodes {n : HeaderNode} (hn : n ∈ nodes) :
    n.fieldIds <:+: idsOfNodes nodes := by
  obtain ⟨before, after, rfl⟩ := List.append_of_mem hn
  rw [idsOfNodes_append, idsOfNodes_cons, ← List.append_assoc]
  exact List.infix_append ..

/-! ## Where columns are placed -/

/-- How far placing has come: the nodes before the place hold the columns that
are done, and `ahead` those of them that are still to come.  The columns to come
that are mentioned are these, and those of the nodes after the place. -/
structure Placed (mentioned done todo ahead : List String) (before after : List HeaderNode) :
    Prop where
  placed : idsOfNodes before = done ++ ahead
  next : ahead <+: todo
  order : todo.filter mentioned.contains = ahead ++ idsOfNodes after

variable {mentioned done rest ahead : List String} {before after : List HeaderNode} {c : Column}

theorem Placed.mentions {todo : List String}
    (h : Placed mentioned done todo ahead before after) :
    ∀ id ∈ ahead ++ idsOfNodes after, id ∈ mentioned := by
  intro id hid
  rw [← h.order] at hid
  exact List.contains_iff_mem.1 (List.mem_filter.1 hid).2

theorem holder_of_mem (hid : c.fieldId ∈ idsOfNodes before) (after : List HeaderNode) :
    ∃ i < before.length,
      (before ++ after).findIdx? (fun n => n.fieldIds.contains c.fieldId) = some i := by
  rw [idsOfNodes_eq_flatMap] at hid
  obtain ⟨n, hn, hid⟩ := List.mem_flatMap.1 hid
  have hsome : (before.findIdx? fun n => n.fieldIds.contains c.fieldId).isSome := by
    rw [List.findIdx?_isSome, List.any_eq_true]
    exact ⟨n, hn, List.contains_iff_mem.2 hid⟩
  obtain ⟨i, hi⟩ := Option.isSome_iff_exists.1 hsome
  obtain ⟨hlt, -⟩ := List.findIdx?_eq_some_iff_getElem.1 hi
  exact ⟨i, hlt, by rw [List.findIdx?_append, hi, Option.some_or]⟩

theorem holder_of_head {n : HeaderNode}
    (hbefore : c.fieldId ∉ idsOfNodes before) (hn : c.fieldId ∈ n.fieldIds)
    (later : List HeaderNode) :
    (before ++ n :: later).findIdx? (fun n => n.fieldIds.contains c.fieldId) =
      some before.length := by
  have hnone : before.findIdx? (fun n => n.fieldIds.contains c.fieldId) = none := by
    rw [List.findIdx?_eq_none_iff]
    intro m hm
    rw [Bool.eq_false_iff, Ne, List.contains_iff_mem]
    exact fun hid => hbefore (fieldIds_subset_idsOfNodes hm hid)
  rw [List.findIdx?_append, hnone, Option.none_or, List.findIdx?_cons,
    if_pos (List.contains_iff_mem.2 hn)]
  simp

/-- A column of the last node before the place is passed over. -/
theorem Placed.pass
    (h : Placed mentioned done (c.fieldId :: rest) (c.fieldId :: ahead) before after) :
    placeColumn mentioned (before ++ after, before.length) c = (before ++ after, before.length) ∧
      Placed mentioned (done ++ [c.fieldId]) rest ahead before after := by
  have hc : mentioned.contains c.fieldId = true :=
    List.contains_iff_mem.2 (h.mentions _ (by simp))
  have hbefore : c.fieldId ∈ idsOfNodes before := by
    rw [h.placed]
    simp
  obtain ⟨i, hlt, hi⟩ := holder_of_mem hbefore after
  have hplace : max before.length (i + 1) = before.length := by omega
  have horder := h.order
  rw [List.filter_cons_of_pos hc, List.cons_append] at horder
  refine ⟨?_, ?_, (List.cons_prefix_cons.1 h.next).2, (List.cons.inj horder).2⟩
  · rw [placeColumn_of_found hc hi]
    simp only [hplace]
  · rw [h.placed, List.append_assoc, List.singleton_append]

/-- In a list without repetition, what goes on from an element goes on from its
only place. -/
theorem rest_of_infix_cons {id : String} {more : List String}
    (hdistinct : (done ++ id :: rest).Nodup) (hsegment : id :: more <:+: done ++ id :: rest) :
    more <+: rest := by
  obtain ⟨front, back, hsplit⟩ := hsegment
  have hsplit : front ++ id :: (more ++ back) = done ++ id :: rest := by
    simpa using hsplit
  have hnodup : (front ++ id :: (more ++ back)).Nodup := hsplit ▸ hdistinct
  obtain ⟨hrest, hfront⟩ := List.nodup_cons.1 (List.nodup_middle.1 hnodup)
  obtain ⟨-, -, hsame⟩ := (List.append_cons_inj_of_notMem
    (fun h => hrest (List.mem_append_left _ h))
    (fun h => hrest (List.mem_append_right _ h))).1 hsplit
  exact ⟨back, hsame⟩

/-- The first column of the node behind the place moves the place behind it. -/
theorem Placed.enter
    (h : Placed mentioned done (c.fieldId :: rest) [] before after)
    (hc : mentioned.contains c.fieldId = true)
    (hdistinct : (done ++ c.fieldId :: rest).Nodup)
    (hafter : ∀ n ∈ after, n.fieldIds ≠ [] ∧ n.fieldIds <:+: done ++ c.fieldId :: rest) :
    ∃ n ahead later, after = n :: later ∧
      placeColumn mentioned (before ++ after, before.length) c =
        ((before ++ [n]) ++ later, (before ++ [n]).length) ∧
      Placed mentioned (done ++ [c.fieldId]) rest ahead (before ++ [n]) later := by
  have horder := h.order
  rw [List.filter_cons_of_pos hc, List.nil_append] at horder
  rcases after with _ | ⟨n, later⟩
  · cases horder
  · obtain ⟨hsome, hsegment⟩ := hafter n List.mem_cons_self
    obtain ⟨id, ahead, hn⟩ := List.exists_cons_of_ne_nil hsome
    rw [idsOfNodes_cons, hn, List.cons_append] at horder
    obtain ⟨rfl, hlater⟩ := List.cons.inj horder
    have hplaced := h.placed
    rw [List.append_nil] at hplaced
    have hnew : c.fieldId ∉ idsOfNodes before := by
      rw [hplaced]
      exact fun hid => List.disjoint_of_nodup_append hdistinct hid List.mem_cons_self
    have hi := holder_of_head hnew (show c.fieldId ∈ n.fieldIds from hn ▸ List.mem_cons_self) later
    refine ⟨n, ahead, later, rfl, ?_, ?_, rest_of_infix_cons hdistinct (hn ▸ hsegment), hlater⟩
    · rw [placeColumn_of_found hc hi]
      simp
    · rw [idsOfNodes_append, hplaced, idsOfNodes_cons, hn]
      simp

theorem insertIdx_length_append {α : Type} (as bs : List α) (a : α) :
    (as ++ bs).insertIdx as.length a = as ++ a :: bs := by
  induction as with
  | nil => rfl
  | cons first rest ih => simp [List.insertIdx_succ_cons, ih]

/-- A column that is not mentioned gets a leaf at the place. -/
theorem Placed.insert
    (h : Placed mentioned done (c.fieldId :: rest) ahead before after)
    (hc : mentioned.contains c.fieldId = false) :
    placeColumn mentioned (before ++ after, before.length) c =
        ((before ++ [leaf c]) ++ after, (before ++ [leaf c]).length) ∧
      Placed mentioned (done ++ [c.fieldId]) rest [] (before ++ [leaf c]) after := by
  have hahead : ahead = [] := by
    rcases ahead with _ | ⟨id, ahead⟩
    · rfl
    · obtain ⟨rfl, -⟩ := List.cons_prefix_cons.1 h.next
      rw [List.contains_iff_mem.2 (h.mentions _ (by simp))] at hc
      cases hc
  subst hahead
  have horder := h.order
  rw [List.filter_cons_of_neg (Bool.eq_false_iff.1 hc)] at horder
  refine ⟨?_, ?_, List.nil_prefix, horder⟩
  · rw [placeColumn_of_not_mentioned hc]
    simp [insertIdx_length_append]
  · simp [h.placed]

theorem Placed.foldl
    (h : Placed mentioned done (columns.map (·.fieldId)) ahead before after)
    (hdistinct : (done ++ columns.map (·.fieldId)).Nodup)
    (hafter : ∀ n ∈ after, n.fieldIds ≠ [] ∧
      n.fieldIds <:+: done ++ columns.map (·.fieldId)) :
    idsOfNodes (columns.foldl (placeColumn mentioned) (before ++ after, before.length)).1 =
      done ++ columns.map (·.fieldId) := by
  induction columns generalizing done ahead before after with
  | nil =>
      have hahead : ahead = [] := List.prefix_nil.1 h.next
      have hnone : after = [] := by
        by_contra hsome
        refine idsOfNodes_ne_nil hsome (fun n hn => (hafter n hn).1) ?_
        simpa [hahead] using h.order
      simpa [hnone, hahead] using h.placed
  | cons c rest ih =>
      have hmore (ids : List String) : done ++ c.fieldId :: ids = (done ++ [c.fieldId]) ++ ids := by
        simp
      rw [List.map_cons] at *
      rw [hmore] at hdistinct hafter ⊢
      cases hc : mentioned.contains c.fieldId with
      | false =>
          obtain ⟨hplace, hplaced⟩ := h.insert hc
          rw [List.foldl_cons, hplace]
          exact ih hplaced hdistinct hafter
      | true =>
          rcases ahead with _ | ⟨id, ahead⟩
          · obtain ⟨n, ahead, later, rfl, hplace, hplaced⟩ :=
              h.enter hc (hmore _ ▸ hdistinct) (hmore _ ▸ hafter)
            rw [List.foldl_cons, hplace]
            exact ih hplaced hdistinct fun n hn => hafter n (List.mem_cons_of_mem _ hn)
          · obtain ⟨rfl, -⟩ := List.cons_prefix_cons.1 h.next
            obtain ⟨hplace, hplaced⟩ := h.pass
            rw [List.foldl_cons, hplace]
            exact ih hplaced hdistinct hafter

/-! ## The order of the header -/

/-- A list without repetition, cut down to those that are in a part of it. -/
theorem filter_contains_of_sublist {part : List String}
    (hpart : part.Sublist ids) (hids : ids.Nodup) : ids.filter part.contains = part := by
  have hown : part.filter part.contains = part := by
    rw [List.filter_eq_self]
    exact fun id hid => List.contains_iff_mem.2 hid
  have hsub : part.Sublist (ids.filter part.contains) := by
    have hfilter := hpart.filter part.contains
    rwa [hown] at hfilter
  have hperm : part.Perm (ids.filter part.contains) := by
    rw [List.perm_ext_iff_of_nodup (hids.sublist hpart) (hids.filter _)]
    intro id
    rw [List.mem_filter, List.contains_iff_mem]
    exact ⟨fun hid => ⟨hpart.subset hid, hid⟩, fun hid => hid.2⟩
  exact (hsub.eq_of_length hperm.length_eq).symm

theorem sublist_foldl_placeColumn {mentioned : List String} (columns : List Column)
    (state : List HeaderNode × Nat) :
    state.1.Sublist (columns.foldl (placeColumn mentioned) state).1 := by
  induction columns generalizing state with
  | nil => exact .refl _
  | cons c rest ih =>
      refine List.Sublist.trans ?_ (ih (placeColumn mentioned state c))
      cases hc : mentioned.contains c.fieldId with
      | true => rw [(placeColumn_of_mentioned hc state).1]
      | false =>
          rw [placeColumn_of_not_mentioned hc]
          exact List.sublist_insertIdx ..

/-- What the description mentions of the columns that are there. -/
theorem filter_idsOfNodes_pruneNodes (nodes : List HeaderNode) (ids : List String) :
    ids.filter (idsOfNodes (pruneNodes ids nodes)).contains =
      ids.filter (idsOfNodes nodes).contains := by
  refine List.filter_congr fun id hid => ?_
  simp [idsOfNodes_pruneNodes, hid]

theorem of_mem_pruneNodes {n : HeaderNode} (hnodes : ∀ n ∈ nodes, n.Described)
    (hn : n ∈ pruneNodes ids nodes) :
    n.fieldIds ≠ [] ∧ ∃ m ∈ nodes, n.fieldIds = m.fieldIds.filter ids.contains := by
  rw [pruneNodes_eq_filterMap, List.mem_filterMap] at hn
  obtain ⟨m, hm, hpruned⟩ := hn
  obtain ⟨rfl, hsome⟩ := (mem_prune? (hnodes m hm).fieldIds_ne_nil).mp hpruned
  exact ⟨hsome, m, hm, m.fieldIds_pruned⟩

theorem mem_pruneNodes {m : HeaderNode} (hnodes : ∀ n ∈ nodes, n.Described) (hm : m ∈ nodes)
    (hsome : m.fieldIds.filter ids.contains ≠ []) :
    m.pruned ids ∈ pruneNodes ids nodes := by
  rw [pruneNodes_eq_filterMap, List.mem_filterMap]
  refine ⟨m, hm, (mem_prune? (hnodes m hm).fieldIds_ne_nil).mpr ⟨rfl, ?_⟩⟩
  rwa [fieldIds_pruned]

/-- The nodes hold the columns in their order exactly where the columns follow
the description. -/
theorem idsOfNodes_forColumns_eq_iff
    (hnodes : ∀ n ∈ nodes, n.Described) (hcolumns : (columns.map (·.fieldId)).Nodup) :
    idsOfNodes (forColumns nodes columns) = columns.map (·.fieldId) ↔
      Follows nodes (columns.map (·.fieldId)) := by
  set ids := columns.map (·.fieldId) with hids
  set left := pruneNodes ids nodes with hleft
  have hleftIds : idsOfNodes left = (idsOfNodes nodes).filter ids.contains :=
    idsOfNodes_pruneNodes nodes
  constructor
  · intro hsame
    have hsub : left.Sublist (forColumns nodes columns) :=
      sublist_foldl_placeColumn columns (left, 0)
    have hsubIds : (idsOfNodes left).Sublist ids := by
      rw [← hsame, idsOfNodes_eq_flatMap, idsOfNodes_eq_flatMap]
      exact hsub.flatMap _
    refine ⟨?_, ?_⟩
    · rw [← filter_idsOfNodes_pruneNodes nodes, filter_contains_of_sublist hsubIds hcolumns,
        hleftIds]
    · intro m hm
      by_cases hsome : m.fieldIds.filter ids.contains = []
      · rw [hsome]
        exact List.nil_infix
      · have hsegment := fieldIds_infix_idsOfNodes (hsub.subset (mem_pruneNodes hnodes hm hsome))
        rwa [hsame, m.fieldIds_pruned] at hsegment
  · rintro ⟨hordered, htogether⟩
    have hstart : Placed (idsOfNodes left) [] ids [] [] left := by
      refine ⟨rfl, List.nil_prefix, ?_⟩
      rw [filter_idsOfNodes_pruneNodes nodes, hordered, hleftIds, List.nil_append]
    refine hstart.foldl hcolumns fun n hn => ?_
    obtain ⟨hsome, m, hm, hfields⟩ := of_mem_pruneNodes hnodes hn
    exact ⟨hsome, hfields ▸ htogether m hm⟩

/-! ## What keeps the order -/

variable {id : String} {before after : List String}

/-- Columns may go. -/
theorem Follows.filter (h : Follows nodes ids) (p : String → Bool) :
    Follows nodes (ids.filter p) := by
  have hleft (listed : List String) :
      listed.filter (ids.filter p).contains = (listed.filter ids.contains).filter p := by
    rw [List.filter_filter]
    refine List.filter_congr fun id _ => ?_
    simp [Bool.and_comm]
  constructor
  · rw [List.filter_comm, h.ordered, hleft]
  · intro n hn
    rw [hleft]
    exact (h.together n hn).filter p

/-- A column that is not mentioned may come in between, but not between two of
one node. -/
theorem Follows.insert (h : Follows nodes (before ++ after)) (hid : id ∉ idsOfNodes nodes)
    (hapart : ∀ n ∈ nodes, ∀ a ∈ before.getLast?, ∀ b ∈ after.head?,
      ¬(a ∈ n.fieldIds ∧ b ∈ n.fieldIds)) :
    Follows nodes (before ++ id :: after) := by
  have hleft {listed : List String} (hlisted : id ∉ listed) :
      listed.filter (before ++ id :: after).contains =
        listed.filter (before ++ after).contains := by
    refine List.filter_congr fun other hother => ?_
    have hne : other ≠ id := fun hsame => hlisted (hsame ▸ hother)
    simp [hne]
  constructor
  · have hordered := h.ordered
    rw [List.filter_append] at hordered
    rw [List.filter_append, List.filter_cons_of_neg (by simpa using hid), hordered, hleft hid]
  · intro n hn
    rw [hleft fun hmem => hid (fieldIds_subset_idsOfNodes hn hmem)]
    rcases List.infix_append_iff.1 (h.together n hn) with
      hbefore | hafter | ⟨front, back, hsplit, hfront, hback⟩
    · exact hbefore.trans (List.prefix_append ..).isInfix
    · exact hafter.trans ((List.suffix_cons ..).trans (List.suffix_append ..)).isInfix
    · have hmem {other : String} (hother : other ∈ front ++ back) : other ∈ n.fieldIds := by
        rw [← hsplit] at hother
        exact (List.mem_filter.1 hother).1
      rw [hsplit]
      rcases front.eq_nil_or_concat with rfl | ⟨front, a, rfl⟩
      · exact (hback.isInfix.trans (List.suffix_cons ..).isInfix).trans
          (List.suffix_append ..).isInfix
      · rcases back with _ | ⟨b, back⟩
        · rw [List.append_nil]
          exact hfront.isInfix.trans (List.prefix_append ..).isInfix
        · -- the node would have a column on both sides
          obtain ⟨start, rfl⟩ := hfront
          obtain ⟨rest, rfl⟩ := hback
          exact absurd ⟨hmem (by simp), hmem (by simp)⟩ (hapart n hn a (by simp) b (by simp))

/-- A description that lists the columns in their order is followed by them. -/
theorem Follows.refl (nodes : List HeaderNode) : Follows nodes (idsOfNodes nodes) := by
  refine ⟨rfl, fun n hn => ?_⟩
  have hall : n.fieldIds.filter (idsOfNodes nodes).contains = n.fieldIds := by
    rw [List.filter_eq_self]
    exact fun id hid => List.contains_iff_mem.2 (fieldIds_subset_idsOfNodes hn hid)
  rw [hall]
  exact fieldIds_infix_idsOfNodes hn

theorem fieldIds_infix_of_level {n : HeaderNode} {d : Nat} (hnodes : ∀ n ∈ nodes, n.Described)
    (hn : n ∈ level d nodes) : n.fieldIds <:+: idsOfNodes nodes := by
  induction d generalizing n with
  | zero => exact fieldIds_infix_idsOfNodes hn
  | succ d ih =>
      rw [level_succ] at hn
      obtain ⟨parent, hparent, hkid⟩ := List.mem_flatMap.1 hn
      have hown : parent.fieldIds = idsOfNodes parent.kids :=
        (described_level hnodes parent hparent).fieldIds_of_hasChildren
          (hasChildren_iff.2 (List.ne_nil_of_mem hkid))
      exact (hown ▸ fieldIds_infix_idsOfNodes hkid).trans (ih hparent)

end HeaderNode

namespace HeaderLayout

open HeaderNode

variable {nodes : List HeaderNode}

theorem topIds_ofNodes (nodes : List HeaderNode) :
    (ofNodes nodes).topIds = idsOfNodes nodes := by
  rw [topIds, row_ofNodes, level, List.flatMap_map, idsOfNodes_eq_flatMap]
  rfl

/-- Every cell stands over ids that are next to each other in the top row. -/
theorem fieldIds_infix_topIds (hnodes : ∀ n ∈ nodes, n.Described) {c : HeaderCell}
    (hc : c ∈ (ofNodes nodes).cells) : c.fieldIds <:+: (ofNodes nodes).topIds := by
  obtain ⟨d, n, hn, rfl⟩ := mem_cells_ofNodes.1 hc
  rw [topIds_ofNodes]
  exact fieldIds_infix_of_level hnodes hn

end HeaderLayout

end RecordGrid
