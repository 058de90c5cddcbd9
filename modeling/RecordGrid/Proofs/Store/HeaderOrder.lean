import RecordGrid.Proofs.Layout.HeaderOrder
import RecordGrid.Proofs.Store.Fields

/-!
# The header above the columns of a session

A description that lists the columns of its schema in their order goes on doing
so for those that are left, however columns come and go, with two exceptions: a
column that is repeated between two columns of one top node, and a column that
comes under an id that the description lists.  Where neither happens, the header
reads like the columns, after every operation.
-/

namespace RecordGrid

open HeaderNode

namespace Schema

def headerNodes (schema : Schema) : List HeaderNode := schema.headerStructure.getD []

def fieldIds (schema : Schema) : List String := schema.columns.map (·.fieldId)

/-- The header description is well formed and lists the columns, each once and
in their order. -/
structure DescribesColumns (schema : Schema) : Prop where
  described : ∀ n ∈ schema.headerNodes, n.Described
  lists : idsOfNodes schema.headerNodes = schema.fieldIds
  distinct : schema.fieldIds.Nodup

end Schema

namespace Grid

variable {nodes : List HeaderNode} {p : Policy} {g : Grid} {e : StructuralEdit}

/-! ## The ids after an edit -/

theorem fieldIds_splitColumn_cases (g : Grid) :
    g.splitColumn.grid.fieldIds = g.fieldIds ∨
      ∃ before after id,
        g.fieldIds = before ++ after ∧ g.splitColumn.grid.fieldIds = before ++ id :: after ∧
        id ∉ g.fieldIds ∧
        before.length = splitTarget g.columns.length g.selectedPositions + 1 := by
  unfold splitColumn
  simp only
  split
  · rename_i source hsource
    set position := splitTarget g.columns.length g.selectedPositions with hposition
    have hlt : position + 1 ≤ g.fieldIds.length := by
      rw [fieldIds, List.length_map]
      exact (List.getElem?_eq_some_iff.1 hsource).1
    have hlength : (g.fieldIds.take (position + 1)).length = position + 1 := by
      rw [List.length_take]
      omega
    refine .inr ⟨g.fieldIds.take (position + 1), g.fieldIds.drop (position + 1), _,
      (List.take_append_drop ..).symm, ?_, uniqueFieldId_not_mem _ (source.fieldId ++ "_copy"),
      hlength⟩
    rw [← insertIdx_length_append, List.take_append_drop, hlength]
    simp only [Transition.ofColumns, fieldIds, List.map_insertIdx]
  · exact .inl rfl

/-- An edit leaves the ids alone, takes one away, or brings a new one: at the end,
or, where it repeats a column, right behind that column. -/
theorem fieldIds_apply_cases (p : Policy) (e : StructuralEdit) (g : Grid) :
    (e.apply p g).grid.fieldIds = g.fieldIds ∨
    (∃ i, (e.apply p g).grid.fieldIds = g.fieldIds.eraseIdx i) ∨
    ∃ before after id,
      g.fieldIds = before ++ after ∧ (e.apply p g).grid.fieldIds = before ++ id :: after ∧
      id ∉ g.fieldIds ∧
      (after = [] ∨ e = .splitColumn ∧
        before.length = splitTarget g.columns.length g.selectedPositions + 1) := by
  have hrows (hmark : e.mark.columns = false) : (e.apply p g).grid.fieldIds = g.fieldIds := by
    rw [fieldIds, StructuralEdit.columns_apply hmark, fieldIds]
  cases e with
  | addRow => exact .inl (hrows rfl)
  | removeRow index => exact .inl (hrows rfl)
  | mergeRows => exact .inl (hrows rfl)
  | splitRow => exact .inl (hrows rfl)
  | addColumn label =>
      exact .inr (.inr ⟨g.fieldIds, [], _, (List.append_nil _).symm, fieldIds_addColumn label g,
        uniqueFieldId_not_mem _ _, .inl rfl⟩)
  | removeColumn fieldId =>
      cases hindex : g.columnIndex? fieldId with
      | none =>
          refine .inl ?_
          simp only [StructuralEdit.apply, removeColumn, hindex, Transition.unchanged]
      | some i => exact .inr (.inl ⟨i, fieldIds_removeColumn hindex⟩)
  | mergeColumns =>
      rcases mergeColumns_cases g with hsame | ⟨next, upper, hnext, hids, -⟩
      · refine .inl ?_
        simp only [StructuralEdit.apply, hsame, Transition.unchanged]
      · refine .inr (.inl ⟨upper, ?_⟩)
        simp only [StructuralEdit.apply, hnext, Transition.ofColumns, hids]
  | splitColumn =>
      rcases fieldIds_splitColumn_cases g with
        hsame | ⟨before, after, id, hsplit, hids, hnew, hposition⟩
      · exact .inl hsame
      · exact .inr (.inr ⟨before, after, id, hsplit, hids, hnew, .inr ⟨rfl, hposition⟩⟩)

theorem distinct_apply (hg : g.fieldIds.Nodup) (p : Policy) (e : StructuralEdit) :
    (e.apply p g).grid.fieldIds.Nodup := by
  rcases fieldIds_apply_cases p e g with
    hsame | ⟨i, herased⟩ | ⟨before, after, id, hsplit, hids, hnew, -⟩
  · rwa [hsame]
  · rw [herased]
    exact hg.eraseIdx i
  · rw [hsplit] at hg hnew
    rw [hids]
    exact List.nodup_middle.2 (List.nodup_cons.2 ⟨hnew, hg⟩)

/-- Repeating a column puts a column between two of one top node. -/
def SplitsNode (nodes : List HeaderNode) (g : Grid) : Prop :=
  ∃ n ∈ nodes, ∃ a ∈ n.fieldIds, ∃ b ∈ n.fieldIds,
    g.fieldIds[splitTarget g.columns.length g.selectedPositions]? = some a ∧
      g.fieldIds[splitTarget g.columns.length g.selectedPositions + 1]? = some b

instance (nodes : List HeaderNode) (g : Grid) : Decidable (g.SplitsNode nodes) :=
  inferInstanceAs (Decidable (∃ n ∈ nodes, ∃ a ∈ n.fieldIds, ∃ b ∈ n.fieldIds, _ ∧ _))

/-- The edit brings no id that the nodes list, and splits no node. -/
def SparesNodes (nodes : List HeaderNode) (p : Policy) (g : Grid) (e : StructuralEdit) : Prop :=
  (∀ id ∈ (e.apply p g).grid.fieldIds, id ∈ g.fieldIds ∨ id ∉ idsOfNodes nodes) ∧
    (e = .splitColumn → ¬g.SplitsNode nodes)

instance (nodes : List HeaderNode) (p : Policy) (g : Grid) (e : StructuralEdit) :
    Decidable (g.SparesNodes nodes p e) :=
  inferInstanceAs (Decidable (_ ∧ _))

theorem eraseIdx_eq_filter {ids : List String} (hids : ids.Nodup) (i : Nat) :
    ∃ p : String → Bool, ids.eraseIdx i = ids.filter p := by
  by_cases hi : i < ids.length
  · exact ⟨_, by rw [← hids.erase_getElem i hi, hids.erase_eq_filter]⟩
  · exact ⟨fun _ => true, by rw [List.eraseIdx_of_length_le (by omega), List.filter_true]⟩

theorem follows_apply
    (hdistinct : g.fieldIds.Nodup) (hg : Follows nodes g.fieldIds) (he : g.SparesNodes nodes p e) :
    Follows nodes (e.apply p g).grid.fieldIds := by
  rcases fieldIds_apply_cases p e g with
    hsame | ⟨i, herased⟩ | ⟨before, after, id, hsplit, hids, hnew, hplace⟩
  · rwa [hsame]
  · obtain ⟨kept, hkept⟩ := eraseIdx_eq_filter hdistinct i
    rw [herased, hkept]
    exact hg.filter kept
  · have hid : id ∉ idsOfNodes nodes :=
      (he.1 id (by rw [hids]; simp)).resolve_left hnew
    rw [hids]
    refine Follows.insert (hsplit ▸ hg) hid ?_
    rintro n hn a ha b hb ⟨han, hbn⟩
    rcases hplace with rfl | ⟨hcopy, hlength⟩
    · cases hb
    · refine he.2 hcopy ⟨n, hn, a, han, b, hbn, ?_, ?_⟩
      · rw [List.getLast?_eq_getElem?, hlength] at ha
        rw [hsplit, List.getElem?_append_left (by omega)]
        exact ha
      · rw [List.head?_eq_getElem?] at hb
        rw [hsplit, List.getElem?_append_right (by omega), hlength, Nat.sub_self]
        exact hb

end Grid

namespace Store

variable {s next : Store} {op : Operation} {ops : List Operation}

/-! ## What holds of the grid and of all grids of the history -/

/-- The property holds of the columns of every grid that the store can come to by
undo and redo, under the header description that there is. -/
structure EveryGrid (P : List HeaderNode → List String → Prop) (s : Store) : Prop where
  grid : P s.schema.headerNodes s.grid.fieldIds
  history : s.history.All fun g => P s.schema.headerNodes g.fieldIds

variable {P : List HeaderNode → List String → Prop}

theorem EveryGrid.sameSchema
    (hschema : next.schema = s.schema) (hgrid : P s.schema.headerNodes next.grid.fieldIds)
    (hhistory : next.history.All fun g => P s.schema.headerNodes g.fieldIds) :
    next.EveryGrid P := by
  rw [← hschema] at hgrid hhistory
  exact ⟨hgrid, hhistory⟩

/-- What a schema starts with and edits keep, every operation keeps. -/
theorem EveryGrid.step
    (hs : s.EveryGrid P)
    (hload : ∀ schema, op = .loadSchema schema → P schema.headerNodes schema.fieldIds)
    (hedit : ∀ e, op = .edit e →
      P s.schema.headerNodes (e.apply s.policy s.grid).grid.fieldIds) :
    (s.step op).store.EveryGrid P := by
  have hsame {g : Grid} (hcolumns : g.columns = s.grid.columns) :
      P s.schema.headerNodes g.fieldIds := by
    rw [Grid.fieldIds, hcolumns]
    exact hs.grid
  cases s.gridChange_step op with
  | loaded schema hinstalled =>
      rw [hinstalled]
      exact ⟨hload schema rfl, History.All.clear _⟩
  | supplied rows hreseeded =>
      rw [hreseeded]
      exact sameSchema rfl (hsame rfl) (History.All.clear _)
  | kept hsource hcolumns _ hhistory =>
      exact sameSchema hsource.schema (hsame hcolumns) (hhistory ▸ hs.history)
  | answered hsource _ _ _ hgrid hhistory =>
      exact sameSchema hsource.schema (hsame (hgrid ▸ rfl)) (hhistory ▸ hs.history)
  | entered _ _ _ _ hsource _ hgrid hhistory =>
      exact sameSchema hsource.schema (hsame (hgrid ▸ rfl))
        (hhistory ▸ hs.history.record _ hs.grid)
  | edited e hsource hgrid hhistory =>
      exact sameSchema hsource.schema (hgrid ▸ hedit e rfl)
        (hhistory ▸ hs.history.record _ hs.grid)
  | undone hsource htravel =>
      obtain ⟨hgrid, hhistory⟩ := hs.history.undo hs.grid htravel
      exact sameSchema hsource.schema hgrid hhistory
  | redone hsource htravel =>
      obtain ⟨hgrid, hhistory⟩ := hs.history.redo hs.grid htravel
      exact sameSchema hsource.schema hgrid hhistory

/-! ## Runs -/

/-- The schema describes its columns, and no column is there twice. -/
structure Described (s : Store) : Prop where
  schema : s.schema.DescribesColumns
  distinct : s.EveryGrid fun _ ids => ids.Nodup

theorem Described.ofSchema
    (registry : Registry) {schema : Schema} (hschema : schema.DescribesColumns) :
    (ofSchema registry schema).Described :=
  ⟨hschema, hschema.distinct, History.All.clear _⟩

theorem Described.step (hs : s.Described) (hop : op.Admitted Schema.DescribesColumns) :
    (s.step op).store.Described where
  schema := by
    by_cases hload : ∃ schema, op = .loadSchema schema
    · obtain ⟨schema, rfl⟩ := hload
      exact hop
    · rw [schema_change (s.gridChange_step op) fun schema h => hload ⟨schema, h⟩]
      exact hs.schema
  distinct := by
    refine hs.distinct.step ?_ fun e _ => Grid.distinct_apply hs.distinct.grid s.policy e
    rintro schema rfl
    exact Schema.DescribesColumns.distinct hop

theorem Described.run
    (hs : s.Described) (hops : ∀ op ∈ ops, op.Admitted Schema.DescribesColumns) :
    (s.run ops).Described := by
  induction ops generalizing s with
  | nil => exact hs
  | cons op rest ih =>
      obtain ⟨hop, hrest⟩ := List.forall_mem_cons.1 hops
      exact ih (hs.step hop) hrest

/-- An edit, if the operation is one, spares the nodes of the description. -/
def SparesNodes (s : Store) : Operation → Prop
  | .edit e => s.grid.SparesNodes s.schema.headerNodes s.policy e
  | _ => True

theorem sparesNodes_edit {e : StructuralEdit} :
    s.SparesNodes (.edit e) ↔ s.grid.SparesNodes s.schema.headerNodes s.policy e :=
  Iff.rfl

/-- Every operation of a run spares the nodes, where it is made. -/
def SparesNodesIn : Store → List Operation → Prop
  | _, [] => True
  | s, op :: rest => s.SparesNodes op ∧ SparesNodesIn (s.step op).store rest

theorem follows_step
    (hs : s.Described) (hfollows : s.EveryGrid Follows)
    (hop : op.Admitted Schema.DescribesColumns) (hspares : s.SparesNodes op) :
    (s.step op).store.EveryGrid Follows := by
  refine hfollows.step ?_ ?_
  · rintro schema rfl
    have hlists := Schema.DescribesColumns.lists hop
    rw [← hlists]
    exact Follows.refl _
  · rintro e rfl
    exact Grid.follows_apply hs.distinct.grid hfollows.grid hspares

theorem follows_run
    (hs : s.Described) (hfollows : s.EveryGrid Follows)
    (hops : ∀ op ∈ ops, op.Admitted Schema.DescribesColumns) (hspares : s.SparesNodesIn ops) :
    (s.run ops).EveryGrid Follows := by
  induction ops generalizing s with
  | nil => exact hfollows
  | cons op rest ih =>
      obtain ⟨hop, hrest⟩ := List.forall_mem_cons.1 hops
      obtain ⟨hfirst, hlater⟩ := hspares
      exact ih (hs.step hop) (follows_step hs hfollows hop hfirst) hrest hlater

/-! ## The header -/

theorem Described.header (hs : s.Described) (hcoherent : s.Coherent) :
    s.header.topIds.Perm s.grid.fieldIds ∧
      (s.header.topIds = s.grid.fieldIds ↔ Follows s.schema.headerNodes s.grid.fieldIds) ∧
      ∀ c ∈ s.header.cells, c.fieldIds <:+: s.header.topIds := by
  have hnodes := hs.schema.described
  have hdistinct : (s.grid.columns.map (·.fieldId)).Nodup := hs.distinct.grid
  have hids : (idsOfNodes s.schema.headerNodes).Nodup := hs.schema.lists ▸ hs.schema.distinct
  have hcells : ∀ n ∈ forColumns s.schema.headerNodes s.grid.columns, n.Described :=
    described_forColumns hnodes
  have hheader : s.header = .ofNodes (forColumns s.schema.headerNodes s.grid.columns) :=
    hcoherent.header
  rw [hheader, HeaderLayout.topIds_ofNodes]
  refine ⟨idsOfNodes_forColumns hids hdistinct,
    idsOfNodes_forColumns_eq_iff hnodes hdistinct, fun c hc => ?_⟩
  rw [← HeaderLayout.topIds_ofNodes]
  exact HeaderLayout.fieldIds_infix_topIds hcells hc

/-- In a session under descriptions that list the columns of their schemas in
order, the top row of the header holds every column once.  It reads like the
columns exactly where they follow the description; and they do after every run in
which no column is repeated between two columns of one top node, and none comes
under an id that the description lists.  Every cell then stands over columns that
are next to each other. -/
theorem header_reads_columns_of_run
    (registry : Registry) (schema : Schema) (ops : List Operation)
    (hschema : schema.DescribesColumns)
    (hops : ∀ op ∈ ops, op.Admitted Schema.DescribesColumns) :
    let start := ofSchema registry schema
    let final := start.run ops
    final.header.topIds.Perm final.grid.fieldIds ∧
    (final.header.topIds = final.grid.fieldIds ↔
      Follows final.schema.headerNodes final.grid.fieldIds) ∧
    (start.SparesNodesIn ops →
      final.header.topIds = final.grid.fieldIds ∧
        ∀ c ∈ final.header.cells, c.fieldIds <:+: final.grid.fieldIds) := by
  intro start final
  have hstart : start.Described := .ofSchema registry hschema
  have hfinal : final.Described := hstart.run hops
  have hcoherent : final.Coherent := (Coherent.ofSchema registry schema).run ops
  obtain ⟨hperm, hiff, hcells⟩ := hfinal.header hcoherent
  refine ⟨hperm, hiff, fun hspares => ?_⟩
  have hfollows : start.EveryGrid Follows := by
    refine ⟨?_, History.All.clear _⟩
    show Follows schema.headerNodes schema.fieldIds
    rw [← hschema.lists]
    exact Follows.refl _
  have hreads : final.header.topIds = final.grid.fieldIds :=
    hiff.2 (follows_run hstart hfollows hops hspares).grid
  exact ⟨hreads, hreads ▸ hcells⟩

/-- A width and a height in a group, and a total beside it. -/
def dims : Schema where
  columns := [.plain "w" "W" "text", .plain "h" "H" "text", .plain "total" "Total" "text"]
  headerStructure := some
    [⟨"Dims", none, some [⟨"W", some ["w"], none⟩, ⟨"H", some ["h"], none⟩]⟩,
      ⟨"Total", some ["total"], none⟩]

theorem describesColumns_dims : dims.DescribesColumns where
  described := by
    have hleaf (label id : String) : HeaderNode.Described ⟨label, some [id], none⟩ :=
      .leaf (List.cons_ne_nil id []) rfl
    have hgroup : HeaderNode.Described
        ⟨"Dims", none, some [⟨"W", some ["w"], none⟩, ⟨"H", some ["h"], none⟩]⟩ :=
      .group rfl (List.cons_ne_nil _ _)
        (List.forall_mem_cons.2 ⟨hleaf _ _, List.forall_mem_singleton.2 (hleaf _ _)⟩)
    exact List.forall_mem_cons.2 ⟨hgroup, List.forall_mem_singleton.2 (hleaf _ _)⟩
  lists := rfl
  distinct := by decide

/-- A column is repeated behind the group, one is added, one is removed, and the
removal is undone. -/
theorem header_reads_columns_in_dims :
    let ops : List Operation :=
      [.toggleColumn "h", .edit .splitColumn, .edit (.addColumn "note"),
        .edit (.removeColumn "w"), .undo]
    let final := (ofSchema .builtin dims).run ops
    dims.DescribesColumns ∧ (∀ op ∈ ops, op.Admitted Schema.DescribesColumns) ∧
      (ofSchema .builtin dims).SparesNodesIn ops ∧
      final.grid.fieldIds = ["w", "h", "h_copy", "total", "note"] ∧
      final.header.topIds = final.grid.fieldIds := by
  intro ops final
  have hops : ∀ op ∈ ops, op.Admitted Schema.DescribesColumns := by
    simp [ops, Operation.Admitted]
  have hspares : (ofSchema .builtin dims).SparesNodesIn ops :=
    ⟨trivial, sparesNodes_edit.2 (by decide +kernel), sparesNodes_edit.2 (by decide +kernel),
      sparesNodes_edit.2 (by decide +kernel), trivial, trivial⟩
  obtain ⟨-, -, hreads⟩ :=
    header_reads_columns_of_run .builtin dims ops describesColumns_dims hops
  exact ⟨describesColumns_dims, hops, hspares, by decide +kernel, (hreads hspares).1⟩

/-- A width that is repeated stands behind the height in the header, and a width
that is removed and added again stands before it. -/
theorem header_order_lost_in_dims :
    let repeated := (ofSchema .builtin dims).run [.toggleColumn "w", .edit .splitColumn]
    let again := (ofSchema .builtin dims).run [.edit (.removeColumn "w"), .edit (.addColumn "w")]
    dims.DescribesColumns ∧
      repeated.grid.fieldIds = ["w", "w_copy", "h", "total"] ∧
      repeated.header.topIds = ["w", "h", "w_copy", "total"] ∧
      repeated.header.topIds ≠ repeated.grid.fieldIds ∧
      again.grid.fieldIds = ["h", "total", "w"] ∧ again.header.topIds = ["w", "h", "total"] ∧
      again.header.topIds ≠ again.grid.fieldIds :=
  ⟨describesColumns_dims, by decide +kernel⟩

end Store

end RecordGrid
