import RecordGrid.Proofs.Schema.Columns

/-!
# Schemas written as documents

A schema that was read from a document is written as a document that reads as
the same schema, whether the members of objects stand as they were written or in
the order of their keys.  So reading settles a document: all that the reader
leaves out, repairs or takes for the default is settled by then.
-/

namespace RecordGrid

open Json (Spelling Reads ofOption)

variable {spell : Json → Json}

/-! ## Header descriptions -/

namespace HeaderNode

theorem childrenOfMembers?_eq (members : List (String × Json)) :
    childrenOfMembers? members = (members.lookup "children").elim (some none) childrenOfJson? := by
  induction members with
  | nil => rfl
  | cons m rest ih =>
      obtain ⟨key, j⟩ := m
      rw [childrenOfMembers?, List.lookup_cons, ih]
      by_cases hkey : key = "children"
      · simp [hkey]
      · have hother : ("children" == key) = false := by simpa using Ne.symm hkey
        rw [if_neg hkey, hother]

mutual

theorem ofJson?_toJson (hspell : Spelling spell) (node : HeaderNode) :
    ofJson? (spell node.toJson) = some node := by
  obtain ⟨label, columns, children⟩ := node
  refine hspell.objectOf_elim (P := fun j => ofJson? j = some ⟨label, columns, children⟩)
    keys rfl (by decide) ?_
  intro r hr
  have hlabel : Json.defaulted r "label" "" Json.asStr? = some label :=
    Json.defaulted_of_lookup (hr.lookup "label") (hspell.reads_str label).2 ""
  have hcolumns : Json.optional r "columns" (Json.asList? Json.asStr?) = some columns :=
    Json.optional_of_map (hr.lookup "columns") fun ids _ => hspell.reads_strings ids
  have hchildren : childrenOfMembers? r = some children := by
    rw [childrenOfMembers?_eq, hr.lookup "children"]
    exact children_toJson hspell children
  simp only [ofJson?, hr.record, hlabel, hcolumns, hchildren, Option.bind_eq_bind,
    Option.bind_some]

theorem children_toJson (hspell : Spelling spell) (children : Option (List HeaderNode)) :
    ((childrenToJson children).map spell).elim (some none) childrenOfJson? = some children := by
  cases children with
  | none => rfl
  | some nodes =>
      have hlist := listOfItems?_toJson hspell nodes
      simp only [childrenToJson, Option.map_some, hspell.arr, Option.elim_some, childrenOfJson?,
        hlist]

theorem listOfItems?_toJson (hspell : Spelling spell) (nodes : List HeaderNode) :
    listOfItems? ((listToJson nodes).map spell) = some nodes := by
  cases nodes with
  | nil => rfl
  | cons node rest =>
      have hnode := ofJson?_toJson hspell node
      have hrest := listOfItems?_toJson hspell rest
      simp only [listToJson, List.map_cons, listOfItems?, hnode, hrest, Option.bind_eq_bind,
        Option.bind_some]

end

end HeaderNode

/-! ## Settings -/

/-- The counts fit into 64 bits, as those that are read do. -/
structure RowControls.Writable (c : RowControls) : Prop where
  minRows : Json.IsCount c.minRows
  maxRows : Json.IsCount c.maxRows
  initialRows : Json.IsCount c.initialRows

theorem RowControls.writable_of_ofJson?
    {j : Json} {c : RowControls} (hread : RowControls.ofJson? j = some c) : c.Writable := by
  simp only [ofJson?, Option.bind_eq_bind, Option.bind_eq_some_iff] at hread
  obtain ⟨r, -, mode, -, minRows, hmin, maxRows, hmax, allow, -, initialRows, hinitial, side, -,
    hc⟩ := hread
  cases hc
  exact ⟨Json.isCount_of_optional hmin, Json.isCount_of_optional hmax,
    Json.isCount_of_optional hinitial⟩

theorem RowControls.reads_toJson (hspell : Spelling spell) {c : RowControls} (hc : c.Writable) :
    Reads RowControls.ofJson? (spell c.toJson) c := by
  refine hspell.obj_elim (P := fun j => Reads RowControls.ofJson? j c)
    ["mode", "min_rows", "max_rows", "allow_add_remove", "initial_rows", "side"] rfl
    (by decide) ?_
  intro r hr
  have hmode : Json.defaulted r "mode" .growing (Json.word RowMode.words) = some c.mode := by
    refine Json.defaulted_of_lookup (hr.lookup "mode") (hspell.read_word (by decide) ?_) _
    cases c.mode <;> decide
  have hmin : Json.optional r "min_rows" Json.asCount? = some c.minRows :=
    Json.optional_of_ofOption hspell (hr.lookup "min_rows") (hspell.reads_count hc.minRows)
  have hmax : Json.optional r "max_rows" Json.asCount? = some c.maxRows :=
    Json.optional_of_ofOption hspell (hr.lookup "max_rows") (hspell.reads_count hc.maxRows)
  have hallow : Json.defaulted r "allow_add_remove" false Json.asBool? = some c.allowAddRemove :=
    Json.defaulted_of_lookup (hr.lookup "allow_add_remove") (hspell.read_bool _) _
  have hinitial : Json.optional r "initial_rows" Json.asCount? = some c.initialRows :=
    Json.optional_of_ofOption hspell (hr.lookup "initial_rows")
      (hspell.reads_count hc.initialRows)
  have hside : Json.defaulted r "side" .right (Json.word ControlSide.words) = some c.side := by
    refine Json.defaulted_of_lookup (hr.lookup "side") (hspell.read_word (by decide) ?_) _
    cases c.side <;> decide
  refine ⟨nofun, ?_⟩
  simp only [ofJson?, hr.record, hmode, hmin, hmax, hallow, hinitial, hside, Option.bind_eq_bind,
    Option.bind_some]

theorem Paging.isCount_of_ofJson? {j : Json} {p : Paging} (hread : Paging.ofJson? j = some p) :
    Json.IsCount p.rowsPerPage := by
  simp only [ofJson?, Option.bind_eq_bind, Option.bind_eq_some_iff] at hread
  obtain ⟨r, -, enabled, -, rowsPerPage, hrows, hp⟩ := hread
  cases hp
  exact Json.isCount_of_optional hrows

theorem Paging.reads_toJson
    (hspell : Spelling spell) {p : Paging} (hp : Json.IsCount p.rowsPerPage) :
    Reads Paging.ofJson? (spell p.toJson) p := by
  refine hspell.obj_elim (P := fun j => Reads Paging.ofJson? j p)
    ["enabled", "rows_per_page"] rfl (by decide) ?_
  intro r hr
  have henabled : Json.defaulted r "enabled" false Json.asBool? = some p.enabled :=
    Json.defaulted_of_lookup (hr.lookup "enabled") (hspell.read_bool _) _
  have hrows : Json.optional r "rows_per_page" Json.asCount? = some p.rowsPerPage :=
    Json.optional_of_ofOption hspell (hr.lookup "rows_per_page") (hspell.reads_count hp)
  refine ⟨nofun, ?_⟩
  simp only [ofJson?, hr.record, henabled, hrows, Option.bind_eq_bind, Option.bind_some]

theorem ColumnLayout.isCount_of_ofJson?
    {j : Json} {l : ColumnLayout} (hread : ColumnLayout.ofJson? j = some l) :
    Json.IsCount l.columnCount := by
  simp only [ofJson?, Option.bind_eq_bind, Option.bind_eq_some_iff] at hread
  obtain ⟨r, -, columnCount, hcount, mode, -, sticky, -, resizable, -, hl⟩ := hread
  cases hl
  exact Json.isCount_of_optional hcount

theorem ColumnLayout.reads_toJson
    (hspell : Spelling spell) {l : ColumnLayout} (hl : Json.IsCount l.columnCount) :
    Reads ColumnLayout.ofJson? (spell l.toJson) l := by
  refine hspell.obj_elim (P := fun j => Reads ColumnLayout.ofJson? j l)
    ["column_count", "column_width_mode", "sticky_headers", "resizable_columns"] rfl
    (by decide) ?_
  intro r hr
  have hcount : Json.optional r "column_count" Json.asCount? = some l.columnCount :=
    Json.optional_of_ofOption hspell (hr.lookup "column_count") (hspell.reads_count hl)
  have hmode :
      Json.defaulted r "column_width_mode" .auto (Json.word WidthMode.words) =
        some l.columnWidthMode := by
    refine Json.defaulted_of_lookup (hr.lookup "column_width_mode")
      (hspell.read_word (by decide) ?_) _
    cases l.columnWidthMode <;> decide
  have hsticky : Json.defaulted r "sticky_headers" false Json.asBool? = some l.stickyHeaders :=
    Json.defaulted_of_lookup (hr.lookup "sticky_headers") (hspell.read_bool _) _
  have hresizable :
      Json.defaulted r "resizable_columns" false Json.asBool? = some l.resizableColumns :=
    Json.defaulted_of_lookup (hr.lookup "resizable_columns") (hspell.read_bool _) _
  refine ⟨nofun, ?_⟩
  simp only [ofJson?, hr.record, hcount, hmode, hsticky, hresizable, Option.bind_eq_bind,
    Option.bind_some]

theorem TableStyle.reads_toJson (hspell : Spelling spell) (t : TableStyle) :
    Reads TableStyle.ofJson? (spell t.toJson) t := by
  refine hspell.obj_elim (P := fun j => Reads TableStyle.ofJson? j t)
    ["table_border", "striped_rows", "alternate_row_color", "header_color",
      "header_font_color"] rfl (by decide) ?_
  intro r hr
  have hborder : Json.defaulted r "table_border" false Json.asBool? = some t.tableBorder :=
    Json.defaulted_of_lookup (hr.lookup "table_border") (hspell.read_bool _) _
  have hstriped : Json.defaulted r "striped_rows" false Json.asBool? = some t.stripedRows :=
    Json.defaulted_of_lookup (hr.lookup "striped_rows") (hspell.read_bool _) _
  have hcolor (name : String) (color : Option String)
      (hfield : r.lookup name = (some (ofOption .str color)).map spell) :
      Json.optional r name Json.asStr? = some color :=
    Json.optional_of_ofOption hspell hfield fun s _ => hspell.reads_str s
  refine ⟨nofun, ?_⟩
  simp only [ofJson?, hr.record, hborder, hstriped, hcolor _ _ (hr.lookup "alternate_row_color"),
    hcolor _ _ (hr.lookup "header_color"), hcolor _ _ (hr.lookup "header_font_color"),
    Option.bind_eq_bind, Option.bind_some]

/-! ## Schemas -/

namespace Schema

/-- A schema as a document describes it. -/
structure Described (spell : Json → Json) (s : Schema) : Prop where
  columns : ∀ c ∈ s.columns, c.Described spell
  ids : (s.columns.map (·.fieldId)).Nodup
  preloadRows : ∀ rows ∈ s.preloadRows, ∀ row ∈ rows, spell (.obj row) = .obj row
  rowControls : s.rowControls.Writable
  paging : Json.IsCount s.paging.rowsPerPage
  columnLayout : Json.IsCount s.columnLayout.columnCount

variable {α : Type} {read : Json → Option α} {a : α} {members root : List (String × Json)}
  {key : String} {d j : Json} {s : Schema}

theorem section_of_lookup (hfield : members.lookup key = some j) (hread : Reads read j a) :
    Schema.section? members key read = some a := by
  obtain ⟨hthere, hread⟩ := hread
  have hfield : Keyed.get? members key = some j := hfield
  cases j <;> simp_all [section?]

/-- What holds of a default, and of all that is read, holds of a section. -/
theorem section_induction
    {P : α → Prop} (hdefault : P a) (hread : ∀ j b, read j = some b → P b)
    (config : List (String × Json)) (key : String) :
    P ((section? config key read).getD a) := by
  unfold section?
  split
  · exact hdefault
  · exact hdefault
  · rename_i j _ _
    cases hj : read j with
    | none => exact hdefault
    | some b => exact hread j b hj

/-! ### What was read -/

theorem fixed_config
    (hspell : Spelling spell) (hroot : spell (.obj root) = .obj root)
    (hfield : (config root).lookup key = some j) :
    spell j = j := by
  have hinside {members : List (String × Json)} (hmembers : spell (.obj members) = .obj members)
      {key : String} {j : Json} (hfield : members.lookup key = some j) : spell j = j := by
    obtain ⟨before, after, hsplit, -⟩ := List.lookup_eq_some_iff.1 hfield
    have hmem : (key, j) ∈ members := hsplit ▸ List.mem_append_right before (List.mem_cons_self ..)
    exact hspell.inside members hmembers (key, j) hmem
  unfold config at hfield
  split at hfield
  · rename_i inner hinner
    exact hinside (hinside hroot hinner) hfield
  · exact hinside hroot hfield

theorem described_of_ofJson
    (hspell : Spelling spell) (hd : spell d = d) (hread : ofJson d = .ok s) :
    s.Described spell := by
  cases d with
  | obj root =>
      cases hread
      refine ⟨?_, ?_, ?_, ?_, ?_, ?_⟩
      · intro c hc
        simp only [ofConfig, Column.listOfJson] at hc
        split at hc
        · rename_i items hitems
          exact Column.described_of_mem_listOfItems hspell
            (hspell.inside_arr (fixed_config hspell hd hitems)) hc
        · cases hc
      · simp only [ofConfig, Column.listOfJson]
        split
        · exact Column.listOfItems_nodup _
        · exact List.nodup_nil
      · intro rows hrows row hrow
        simp only [ofConfig, preloadOfJson?] at hrows
        split at hrows
        · rename_i items hitems
          cases hrows
          obtain ⟨item, hitem, hobject⟩ := List.mem_filterMap.1 hrow
          cases item <;> cases hobject
          exact hspell.inside_arr (fixed_config hspell hd hitems) _ hitem
        · cases hrows
      · exact section_induction (P := RowControls.Writable)
          ⟨Json.isCount_none, Json.isCount_none, Json.isCount_none⟩
          (fun _ _ => RowControls.writable_of_ofJson?) _ _
      · exact section_induction (P := fun p : Paging => Json.IsCount p.rowsPerPage)
          Json.isCount_none (fun _ _ => Paging.isCount_of_ofJson?) _ _
      · exact section_induction (P := fun l : ColumnLayout => Json.IsCount l.columnCount)
          Json.isCount_none (fun _ _ => ColumnLayout.isCount_of_ofJson?) _ _
  | _ => cases hread

/-! ### What is written -/

theorem preloadOfJson?_toJson
    (hspell : Spelling spell) {o : Option (List Row)}
    (hrows : ∀ rows ∈ o, ∀ row ∈ rows, spell (.obj row) = .obj row) :
    preloadOfJson? (some (spell (ofOption Row.listToJson o))) = o := by
  cases o with
  | none =>
      rw [ofOption, hspell.null]
      rfl
  | some rows =>
      have hmap : (rows.map Json.obj).map spell = rows.map .obj := by
        rw [List.map_map]
        exact List.map_congr_left (hrows rows rfl)
      have hmembers : Json.asMembers? ∘ Json.obj = some := rfl
      rw [ofOption, Row.listToJson, hspell.arr, hmap, preloadOfJson?, List.filterMap_map, hmembers,
        List.filterMap_some]

theorem headerStructure_toJson
    (hspell : Spelling spell) {o : Option (List HeaderNode)}
    (hfield : members.lookup key =
      some (spell (ofOption (fun nodes => .arr (HeaderNode.listToJson nodes)) o))) :
    Schema.section? members key HeaderNode.listOfJson? = o := by
  cases o with
  | none =>
      rw [ofOption, hspell.null] at hfield
      have hfield : Keyed.get? members key = some .null := hfield
      simp only [section?, hfield]
  | some nodes =>
      rw [ofOption, hspell.arr] at hfield
      have hread := HeaderNode.listOfItems?_toJson hspell nodes
      exact section_of_lookup hfield ⟨Json.noConfusion, hread⟩

theorem ofJson_toJson (hspell : Spelling spell) (hs : s.Described spell) :
    ofJson (spell s.toJson) = .ok s := by
  refine hspell.obj_elim (P := fun j => ofJson j = .ok s)
    ["columns", "header_structure", "preload_rows", "row_controls", "pagination",
      "column_layout", "style"] rfl (by decide) ?_
  intro r hr
  have hconfig : config r = r := by
    have hnone : Keyed.get? r "table_config" = none := hr.lookup "table_config"
    simp only [config, hnone]
  have hcolumns : Column.listOfJson (Keyed.get? r "columns") = s.columns := by
    have hfield : Keyed.get? r "columns" = some (spell (.arr (s.columns.map Column.toJson))) :=
      hr.lookup "columns"
    rw [hfield, hspell.arr, List.map_map, Column.listOfJson]
    exact Column.listOfItems_toJson hspell hs.columns hs.ids
  have hheader : section? r "header_structure" HeaderNode.listOfJson? = s.headerStructure :=
    headerStructure_toJson hspell (hr.lookup "header_structure")
  have hpreload : preloadOfJson? (Keyed.get? r "preload_rows") = s.preloadRows := by
    have hfield : Keyed.get? r "preload_rows" =
        some (spell (ofOption Row.listToJson s.preloadRows)) := hr.lookup "preload_rows"
    rw [hfield, preloadOfJson?_toJson hspell hs.preloadRows]
  have hcontrols : section? r "row_controls" RowControls.ofJson? = some s.rowControls :=
    section_of_lookup (hr.lookup "row_controls") (RowControls.reads_toJson hspell hs.rowControls)
  have hpaging : section? r "pagination" Paging.ofJson? = some s.paging :=
    section_of_lookup (hr.lookup "pagination") (Paging.reads_toJson hspell hs.paging)
  have hlayout : section? r "column_layout" ColumnLayout.ofJson? = some s.columnLayout :=
    section_of_lookup (hr.lookup "column_layout")
      (ColumnLayout.reads_toJson hspell hs.columnLayout)
  have hstyle : section? r "style" TableStyle.ofJson? = some s.style :=
    section_of_lookup (hr.lookup "style") (s.style.reads_toJson hspell)
  simp only [ofJson, ofConfig, hconfig, hcolumns, hheader, hpreload, hcontrols, hpaging, hlayout,
    hstyle, Option.getD_some]

/-- A schema that was read is read again from the document that is written for
it, whether the members stand there as they were written or, where those of the
first document did, in the order of their keys. -/
theorem reading_settles_document (hread : ofJson d = .ok s) :
    ofJson s.toJson = .ok s ∧ (d.canonical = d → ofJson s.toJson.canonical = .ok s) := by
  constructor
  · exact ofJson_toJson Spelling.asWritten (described_of_ofJson Spelling.asWritten rfl hread)
  · intro hd
    exact ofJson_toJson Spelling.canonical (described_of_ofJson Spelling.canonical hd hread)

/-- A wrapped document with a blank name, an id that comes twice, a malformed
column, a section written as an array and items that are passed over. -/
def untidyDocument : Json :=
  .obj
    [("table_config", .obj
      [("columns", .arr
          [.obj
            [("default_value", .obj [("unit", .str "kg")]), ("field_id", .str "mass"),
              ("field_name", .str " ")],
            .str "mass", .obj [("field_id", .str "mass"), ("required", .bool true)],
            .obj [("field_id", .str "note"), ("precision", .str "2")]]),
        ("header_structure", .arr
          [.obj
            [("children", .arr [.obj [("columns", .arr [.str "mass"]), ("label", .str "Mass")]]),
              ("label", .str "Goods")]]),
        ("pagination", .arr [.bool true, .int 3]),
        ("preload_rows", .arr [.obj [("mass", .int 7)], .null]),
        ("row_controls", .obj [("mode", .str "fixed")])])]

def tidied : Schema where
  columns :=
    [{ Column.plain "mass" "mass" "" with defaultValue := some (.obj [("unit", .str "kg")]) },
      .plain "note" "note" ""]
  headerStructure := some [⟨"Goods", none, some [⟨"Mass", some ["mass"], none⟩]⟩]
  preloadRows := some [[("mass", .int 7)]]
  rowControls := { mode := .fixed }
  paging := { enabled := true, rowsPerPage := some 3 }

theorem reading_settles_untidyDocument :
    ofJson untidyDocument = .ok tidied ∧ untidyDocument.canonical = untidyDocument ∧
      ofJson tidied.toJson = .ok tidied ∧ ofJson tidied.toJson.canonical = .ok tidied := by
  have hread : ofJson untidyDocument = .ok tidied := rfl
  have hsorted : untidyDocument.canonical = untidyDocument := rfl
  obtain ⟨hagain, hcanonical⟩ := reading_settles_document hread
  exact ⟨hread, hsorted, hagain, hcanonical hsorted⟩

end Schema

end RecordGrid
