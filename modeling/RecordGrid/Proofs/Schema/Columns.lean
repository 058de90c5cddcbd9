import RecordGrid.Proofs.Json.Record

/-!
# Columns of documents

The columns that a document describes have ids and names, and ids of their own.
A column that was read is written with everything that it holds, and read again
as the same column.
-/

namespace RecordGrid

open Json (Spelling Reads bind_eq_some)

variable {spell : Json → Json}

/-! ## One column -/

theorem Bounds.reads_toJson (hspell : Spelling spell) (b : Bounds) :
    Reads Bounds.ofJson? (spell b.toJson) b := by
  refine hspell.obj_elim (P := fun j => Reads Bounds.ofJson? j b) ["min", "max"] rfl
    (by decide) ?_
  intro r hr
  have hmin : Json.optional r "min" Json.asNumber? = some b.min :=
    Json.optional_of_ofOption hspell (hr.lookup "min") fun x _ => hspell.reads_float x
  have hmax : Json.optional r "max" Json.asNumber? = some b.max :=
    Json.optional_of_ofOption hspell (hr.lookup "max") fun x _ => hspell.reads_float x
  refine ⟨nofun, ?_⟩
  simp only [ofJson?, hr.record, hmin, hmax, Option.bind_eq_bind, Option.bind_some]

theorem Choice.read_toJson (hspell : Spelling spell) (c : Choice) :
    Choice.ofJson? (spell c.toJson) = some c := by
  refine hspell.obj_elim (P := fun j => Choice.ofJson? j = some c) Choice.keys rfl
    (by decide) ?_
  intro r hr
  have hlabel : r.lookup "label" = some (.str c.label) :=
    (hr.lookup "label").trans (congrArg some (hspell.str c.label))
  have hvalue : r.lookup "value" = some (.str c.value) :=
    (hr.lookup "value").trans (congrArg some (hspell.str c.value))
  simp only [ofJson?, hr.record, Json.required, hlabel, hvalue, Option.bind_eq_bind,
    Option.bind_some, Json.asScalarText?]

namespace Column

/-- What a column holds is written so that it is read again. -/
structure Writable (spell : Json → Json) (c : Column) : Prop where
  precision : ∀ n ∈ c.precision, n < 0x100000000
  defaultValue : ∀ j ∈ c.defaultValue, j ≠ .null ∧ spell j = j
  maxLength : Json.IsCount c.maxLength
  rows : ∀ n ∈ c.rows, n < 0x100000000

theorem ofJson?_toJson (hspell : Spelling spell) {c : Column} (hc : c.Writable spell) :
    ∃ r, spell c.toJson = .obj r ∧ ofJson? (.obj r) = some c := by
  refine hspell.objectOf_elim (P := fun j => ∃ r, j = .obj r ∧ ofJson? (.obj r) = some c)
    Column.keys rfl (by decide) ?_
  intro r hr
  refine ⟨r, rfl, ?_⟩
  have htext (name : String) (text : String)
      (hfield : r.lookup name = (some (.str text)).map spell) :
      Json.defaulted r name "" Json.asStr? = some text :=
    Json.defaulted_of_lookup hfield (hspell.reads_str text).2 ""
  have hflag (name : String) (flag : Bool)
      (hfield : r.lookup name = (some (.bool flag)).map spell) :
      Json.defaulted r name false Json.asBool? = some flag :=
    Json.defaulted_of_lookup hfield (hspell.read_bool flag) false
  have hsetting (name : String) (text : Option String)
      (hfield : r.lookup name = (text.map .str).map spell) :
      Json.optional r name Json.asStr? = some text :=
    Json.optional_of_map hfield fun s _ => hspell.reads_str s
  have hprecision : Json.optional r "precision" (Json.asNatBelow? 0x100000000) = some c.precision :=
    Json.optional_of_map (hr.lookup "precision") fun n hn => hspell.reads_nat (hc.precision n hn)
  have hdefault : Json.optional r "default_value" some = some c.defaultValue := by
    have hfield : r.lookup "default_value" = (c.defaultValue.map id).map spell := by
      rw [Option.map_id]
      exact hr.lookup "default_value"
    refine Json.optional_of_map hfield fun j hj => ?_
    rw [id, (hc.defaultValue j hj).2]
    exact ⟨(hc.defaultValue j hj).1, rfl⟩
  have hvalidation : Json.optional r "validation" Bounds.ofJson? = some c.validation :=
    Json.optional_of_map (hr.lookup "validation") fun b _ => b.reads_toJson hspell
  have hoptions : Json.defaulted r "options" [] (Json.asList? Choice.ofJson?) = some c.options :=
    Json.defaulted_of_unlessEmpty (hr.lookup "options")
      (hspell.read_list fun choice _ => choice.read_toJson hspell)
  have hmaxLength : Json.optional r "max_length" Json.asCount? = some c.maxLength :=
    Json.optional_of_map (hr.lookup "max_length") (hspell.reads_count hc.maxLength)
  have hrows : Json.optional r "rows" (Json.asNatBelow? 0x100000000) = some c.rows :=
    Json.optional_of_map (hr.lookup "rows") fun n hn => hspell.reads_nat (hc.rows n hn)
  have hfileTypes :
      Json.defaulted r "file_types" [] (Json.asList? Json.asStr?) = some c.fileTypes :=
    Json.defaulted_of_unlessEmpty (hr.lookup "file_types") (hspell.reads_strings c.fileTypes).2
  have hmaxSize : Json.optional r "max_size_mb" Json.asNumber? = some c.maxSizeMb :=
    Json.optional_of_map (hr.lookup "max_size_mb") fun x _ => hspell.reads_float x
  have hroles :
      Json.defaulted r "signed_by_role" [] (Json.asList? Json.asStr?) = some c.signedByRole :=
    Json.defaulted_of_unlessEmpty (hr.lookup "signed_by_role")
      (hspell.reads_strings c.signedByRole).2
  exact bind_eq_some (hr.record keys) <|
    bind_eq_some (htext _ _ (hr.lookup "field_id")) <|
    bind_eq_some (htext _ _ (hr.lookup "field_name")) <|
    bind_eq_some (htext _ _ (hr.lookup "field_type")) <|
    bind_eq_some (hsetting _ _ (hr.lookup "unit")) <|
    bind_eq_some hprecision <|
    bind_eq_some (hflag _ _ (hr.lookup "required")) <|
    bind_eq_some (hflag _ _ (hr.lookup "read_only")) <|
    bind_eq_some hdefault <|
    bind_eq_some hvalidation <|
    bind_eq_some hoptions <|
    bind_eq_some (hsetting _ _ (hr.lookup "formula")) <|
    bind_eq_some (hsetting _ _ (hr.lookup "endpoint")) <|
    bind_eq_some (hsetting _ _ (hr.lookup "bind_field")) <|
    bind_eq_some (hflag _ _ (hr.lookup "multiline")) <|
    bind_eq_some hmaxLength <|
    bind_eq_some hrows <|
    bind_eq_some (hflag _ _ (hr.lookup "capture_camera")) <|
    bind_eq_some hfileTypes <|
    bind_eq_some hmaxSize <|
    bind_eq_some hroles <|
    bind_eq_some (hsetting _ _ (hr.lookup "visibility_condition")) rfl

/-- A column that was read from a document can be written. -/
theorem writable_of_ofJson?
    (hspell : Spelling spell) {j : Json} (hj : spell j = j) {c : Column}
    (hread : ofJson? j = some c) :
    c.Writable spell := by
  obtain ⟨r, hrecord, hread⟩ := Option.bind_eq_some_iff.1 hread
  iterate 4 obtain ⟨_, -, hread⟩ := Option.bind_eq_some_iff.1 hread
  obtain ⟨precision, hprecision, hread⟩ := Option.bind_eq_some_iff.1 hread
  iterate 2 obtain ⟨_, -, hread⟩ := Option.bind_eq_some_iff.1 hread
  obtain ⟨defaultValue, hdefault, hread⟩ := Option.bind_eq_some_iff.1 hread
  iterate 6 obtain ⟨_, -, hread⟩ := Option.bind_eq_some_iff.1 hread
  obtain ⟨maxLength, hmaxLength, hread⟩ := Option.bind_eq_some_iff.1 hread
  obtain ⟨rows, hrows, hread⟩ := Option.bind_eq_some_iff.1 hread
  iterate 5 obtain ⟨_, -, hread⟩ := Option.bind_eq_some_iff.1 hread
  cases hread
  constructor
  · intro n hn
    obtain ⟨written, -, -, hwritten⟩ := Json.exists_of_mem_optional hprecision hn
    exact Json.lt_of_asNatBelow? hwritten
  · intro value hvalue
    obtain ⟨written, hmem, hthere, hwritten⟩ := Json.exists_of_mem_optional hdefault hvalue
    cases hwritten
    exact ⟨hthere, hspell.inside_record hj hrecord _ hmem⟩
  · exact Json.isCount_of_optional hmaxLength
  · intro n hn
    obtain ⟨written, -, -, hwritten⟩ := Json.exists_of_mem_optional hrows hn
    exact Json.lt_of_asNatBelow? hwritten

theorem writable_plain (fieldId fieldName fieldType : String) :
    (plain fieldId fieldName fieldType).Writable spell := by
  constructor <;> nofun

theorem writable_ofMembers
    (hspell : Spelling spell) {members : List (String × Json)}
    (hmembers : spell (.obj members) = .obj members) :
    (ofMembers members).Writable spell := by
  unfold ofMembers
  cases hread : ofJson? (.obj members) with
  | some c => exact writable_of_ofJson? hspell hmembers hread
  | none => exact writable_plain _ _ _

/-! ## The columns of a document -/

theorem firstOfEach_nodup (columns : List Column) :
    ((firstOfEach columns).map (·.fieldId)).Nodup := by
  induction columns with
  | nil => simp [firstOfEach]
  | cons c rest ih =>
      simp only [firstOfEach, List.map_cons, List.nodup_cons]
      refine ⟨?_, ih.sublist (List.filter_sublist.map _)⟩
      simp [List.mem_map, List.mem_filter]

theorem mem_of_mem_firstOfEach {columns : List Column} {c : Column} (hc : c ∈ firstOfEach columns) :
    c ∈ columns := by
  induction columns with
  | nil => cases hc
  | cons first rest ih =>
      rcases List.mem_cons.1 hc with rfl | hlater
      · exact List.mem_cons_self ..
      · exact List.mem_cons_of_mem _ (ih (List.mem_filter.1 hlater).1)

theorem firstOfEach_of_nodup
    {columns : List Column} (hcolumns : (columns.map (·.fieldId)).Nodup) :
    firstOfEach columns = columns := by
  induction columns with
  | nil => rfl
  | cons c rest ih =>
      obtain ⟨hc, hrest⟩ := List.nodup_cons.1 hcolumns
      have hothers : ∀ d ∈ rest, decide (d.fieldId ≠ c.fieldId) = true := by
        intro d hd
        exact decide_eq_true fun hsame => hc (List.mem_map.2 ⟨d, hd, hsame⟩)
      rw [firstOfEach, ih hrest, List.filter_eq_self.2 hothers]

@[simp] theorem fieldId_named (c : Column) : c.named.fieldId = c.fieldId := by
  unfold named
  split <;> rfl

theorem named_named (c : Column) : c.named.named = c.named := by
  cases hblank : Text.allBlank c.fieldName with
  | false => simp only [named, hblank, Bool.false_eq_true, if_false]
  | true => simp only [named, hblank, if_true, ite_self]

theorem Writable.named {c : Column} (hc : c.Writable spell) : c.named.Writable spell := by
  unfold Column.named
  split
  · exact ⟨hc.precision, hc.defaultValue, hc.maxLength, hc.rows⟩
  · exact hc

theorem listOfItems_nodup (items : List Json) :
    ((listOfItems items).map (·.fieldId)).Nodup := by
  have hids : (·.fieldId) ∘ named = (·.fieldId) := funext fieldId_named
  simp only [listOfItems, List.map_map, hids]
  exact firstOfEach_nodup _

/-- A column of a list comes from one of its objects. -/
theorem exists_members_of_mem_listOfItems
    {items : List Json} {c : Column} (hc : c ∈ listOfItems items) :
    ∃ members, .obj members ∈ items ∧ Text.allBlank (ofMembers members).fieldId = false ∧
      c = (ofMembers members).named := by
  obtain ⟨first, hfirst, rfl⟩ := List.mem_map.1 hc
  obtain ⟨hread, hid⟩ := List.mem_filter.1 (mem_of_mem_firstOfEach hfirst)
  obtain ⟨members, hmembers, rfl⟩ := List.mem_map.1 hread
  obtain ⟨item, hitem, hobject⟩ := List.mem_filterMap.1 hmembers
  obtain rfl : item = .obj members := by
    cases item <;> cases hobject
    rfl
  exact ⟨members, hitem, by simpa using hid, rfl⟩

/-- A column as a document describes it. -/
structure Described (spell : Json → Json) (c : Column) : Prop where
  writable : c.Writable spell
  identified : Text.allBlank c.fieldId = false
  named : c.named = c

theorem described_of_mem_listOfItems
    (hspell : Spelling spell) {items : List Json} (hitems : ∀ j ∈ items, spell j = j)
    {c : Column} (hc : c ∈ listOfItems items) :
    c.Described spell := by
  obtain ⟨members, hitem, hid, rfl⟩ := exists_members_of_mem_listOfItems hc
  refine ⟨(writable_ofMembers hspell (hitems _ hitem)).named, ?_, named_named _⟩
  rw [fieldId_named, hid]

/-- Described columns with ids of their own are read from what is written for
them. -/
theorem listOfItems_toJson
    (hspell : Spelling spell) {columns : List Column}
    (hcolumns : ∀ c ∈ columns, c.Described spell) (hids : (columns.map (·.fieldId)).Nodup) :
    listOfItems (columns.map fun c => spell c.toJson) = columns := by
  have hread : ((columns.map fun c => spell c.toJson).filterMap Json.asMembers?).map ofMembers =
      columns := by
    clear hids
    induction columns with
    | nil => rfl
    | cons c rest ih =>
        rw [List.forall_mem_cons] at hcolumns
        obtain ⟨r, hr, hc⟩ := ofJson?_toJson hspell hcolumns.1.writable
        have hfirst : ofMembers r = c := by rw [ofMembers, hc, Option.getD_some]
        have hobject : Json.asMembers? (.obj r) = some r := rfl
        rw [List.map_cons, hr, List.filterMap_cons_some hobject, List.map_cons, hfirst,
          ih hcolumns.2]
  have hidentified : (columns.filter fun c => !Text.allBlank c.fieldId) = columns :=
    List.filter_eq_self.2 fun c hc => by rw [(hcolumns c hc).identified, Bool.not_false]
  have hnamed : columns.map named = columns.map id :=
    List.map_congr_left fun c hc => (hcolumns c hc).named
  rw [listOfItems, hread, hidentified, firstOfEach_of_nodup hids, hnamed, List.map_id]

end Column

end RecordGrid
