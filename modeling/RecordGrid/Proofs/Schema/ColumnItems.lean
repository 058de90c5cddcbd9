import RecordGrid.Proofs.Schema.Choices

/-!
# The items of a document that become columns

A document lists its columns as items of an array.  An item that is an object
carries the text under `field_id` as its id, unless the text is blank; every other
item is passed over.  The columns that are read are those of the first item of
every id, in the order of these items, and an item that is malformed stands for its
id as well as any other.
-/

namespace RecordGrid

def Json.asItems? : Json → Option (List Json)
  | .arr items => some items
  | _ => none

/-- The id that an item carries, where it carries one. -/
def Json.carriedId? (item : Json) : Option String :=
  ((item.get? "field_id").bind asStr?).filter fun id => !Text.allBlank id

def Json.carries (id : String) (item : Json) : Bool := item.carriedId? == some id

theorem Json.carries_iff {id : String} {item : Json} :
    item.carries id = true ↔ item.carriedId? = some id := beq_iff_eq

theorem Json.carries_of_ne
    {id other : String} {item : Json} (hitem : item.carriedId? = some id) (hne : other ≠ id) :
    item.carries other = false := by
  rw [carries, hitem, beq_eq_false_iff_ne]
  exact fun hsame => hne (Option.some.inj hsame).symm

/-! Where the first item with an id stands, behind an item without this id. -/

theorem Json.find?_carries_cons
    {id : String} {item : Json} (hother : item.carries id = false) (rest : List Json) :
    (item :: rest).find? (carries id) = rest.find? (carries id) :=
  List.find?_cons_of_neg (by rw [hother]; exact Bool.false_ne_true)

theorem Json.findIdx_carries_cons
    {id : String} {item : Json} (hother : item.carries id = false) (rest : List Json) :
    (item :: rest).findIdx (carries id) = rest.findIdx (carries id) + 1 := by
  rw [List.findIdx_cons, hother, cond_false]

theorem Json.findIdx_carries_own
    {id : String} {item : Json} (hown : item.carries id = true) (rest : List Json) :
    (item :: rest).findIdx (carries id) = 0 := by
  rw [List.findIdx_cons, hown, cond_true]

namespace Column

variable {members : List (String × Json)} {rest : List Json} {item : Json} {c : Column}

/-! ## The column of one item -/

/-- The column that an object is read as: by all its keys or, where one of them is
malformed, by those that identify it; and it has a name. -/
inductive ReadFrom (members : List (String × Json)) : Column → Prop
  | whole {c : Column} (hread : ofJson? (.obj members) = some c) : ReadFrom members c.named
  | salvaged (hread : ofJson? (.obj members) = none) :
      ReadFrom members (salvage members).named

theorem readFrom_ofMembers (members : List (String × Json)) :
    ReadFrom members (ofMembers members).named := by
  unfold ofMembers
  cases hread : ofJson? (.obj members) with
  | some c => exact .whole hread
  | none => exact .salvaged hread

/-- What a whole object says about the id of its column and about access to it. -/
theorem guards_of_ofJson? (hread : ofJson? (.obj members) = some c) :
    Json.defaulted members "field_id" "" Json.asStr? = some c.fieldId ∧
      Json.defaulted members "read_only" false Json.asBool? = some c.readOnly ∧
      Json.defaulted members "signed_by_role" [] (Json.asList? Json.asStr?) =
        some c.signedByRole := by
  obtain ⟨r, hrecord, hread⟩ := Option.bind_eq_some_iff.1 hread
  obtain rfl : members = r := Option.some.inj (Option.ite_none_right_eq_some.1 hrecord).2
  -- The keys are read one after the other.
  obtain ⟨fieldId, hid, hread⟩ := Option.bind_eq_some_iff.1 hread
  iterate 5 obtain ⟨_, -, hread⟩ := Option.bind_eq_some_iff.1 hread
  obtain ⟨readOnly, hreadOnly, hread⟩ := Option.bind_eq_some_iff.1 hread
  iterate 12 obtain ⟨_, -, hread⟩ := Option.bind_eq_some_iff.1 hread
  obtain ⟨roles, hroles, hread⟩ := Option.bind_eq_some_iff.1 hread
  obtain ⟨_, -, hread⟩ := Option.bind_eq_some_iff.1 hread
  cases hread
  exact ⟨hid, hreadOnly, hroles⟩

/-- The id is the same whether the object is read as a whole or salvaged. -/
theorem fieldId_ofMembers (members : List (String × Json)) :
    (ofMembers members).fieldId = ((Keyed.get? members "field_id").bind Json.asStr?).getD "" := by
  unfold ofMembers
  cases hread : ofJson? (.obj members) with
  | none => rfl
  | some c =>
      obtain ⟨hid, -⟩ := guards_of_ofJson? hread
      rw [Option.getD_some, Keyed.get?]
      unfold Json.defaulted at hid
      split at hid
      · rename_i hmissing
        rw [hmissing]
        exact (Option.some.inj hid).symm
      · rename_i j hthere
        rw [hthere, Option.bind_some, hid, Option.getD_some]

/-- The column of an item that carries an id, before it is given a name. -/
def ofItem? (item : Json) : Option Column :=
  (item.asMembers?.map ofMembers).filter fun c => !Text.allBlank c.fieldId

theorem carriedId?_eq (item : Json) : item.carriedId? = (ofItem? item).map (·.fieldId) := by
  cases item with
  | obj members =>
      have hid := fieldId_ofMembers members
      have hget : (Json.obj members).get? "field_id" = Keyed.get? members "field_id" := rfl
      rw [Json.carriedId?, hget, ofItem?, Json.asMembers?, Option.map_some, Option.filter_some]
      cases htext : (Keyed.get? members "field_id").bind Json.asStr? with
      | none =>
          have hblank : Text.allBlank "" = true := rfl
          rw [htext, Option.getD_none] at hid
          rw [hid, hblank]
          rfl
      | some text =>
          rw [htext, Option.getD_some] at hid
          rw [Option.filter_some, hid]
          split
          · exact congrArg some hid.symm
          · rfl
  | _ => rfl

theorem of_ofItem?_eq_some (hitem : ofItem? item = some c) :
    ∃ members, item = .obj members ∧ c = ofMembers members ∧ Text.allBlank c.fieldId = false := by
  obtain ⟨hread, hid⟩ := Option.filter_eq_some_iff.1 hitem
  obtain ⟨members, hmembers, rfl⟩ := Option.map_eq_some_iff.1 hread
  cases item <;> cases hmembers
  exact ⟨members, rfl, rfl, by simpa using hid⟩

theorem fieldName_named (hid : Text.allBlank c.fieldId = false) :
    Text.allBlank c.named.fieldName = false := by
  unfold named
  split
  · exact hid
  · rename_i hname
    exact Bool.eq_false_iff.2 hname

/-! ## The columns of a list of items -/

theorem filter_map_named (columns : List Column) (id : String) :
    (columns.filter fun d => d.fieldId ≠ id).map named =
      (columns.map named).filter fun d => d.fieldId ≠ id := by
  rw [List.filter_map]
  congr 2
  funext d
  rw [Function.comp_apply, fieldId_named]

theorem mem_fieldIds_others {columns : List Column} {id own : String} :
    id ∈ (columns.filter fun d => d.fieldId ≠ own).map (·.fieldId) ↔
      id ∈ columns.map (·.fieldId) ∧ id ≠ own := by
  simp only [List.mem_map, List.mem_filter, decide_eq_true_eq]
  constructor
  · rintro ⟨d, ⟨hd, hne⟩, rfl⟩
    exact ⟨⟨d, hd, rfl⟩, hne⟩
  · rintro ⟨⟨d, hd, rfl⟩, hne⟩
    exact ⟨d, ⟨hd, hne⟩, rfl⟩

theorem listOfItems_eq (items : List Json) :
    listOfItems items = (firstOfEach (items.filterMap ofItem?)).map named := by
  have hread : ((items.filterMap Json.asMembers?).map ofMembers).filter
      (fun c => !Text.allBlank c.fieldId) = items.filterMap ofItem? := by
    rw [List.map_filterMap, List.filter_filterMap]
    rfl
  rw [listOfItems, hread]

theorem listOfItems_of_passed (hitem : ofItem? item = none) (rest : List Json) :
    listOfItems (item :: rest) = listOfItems rest := by
  rw [listOfItems_eq, List.filterMap_cons_none hitem, listOfItems_eq]

theorem listOfItems_of_taken (hitem : ofItem? item = some c) (rest : List Json) :
    listOfItems (item :: rest) =
      c.named :: (listOfItems rest).filter fun d => d.fieldId ≠ c.fieldId := by
  rw [listOfItems_eq, List.filterMap_cons_some hitem, firstOfEach, List.map_cons,
    filter_map_named, listOfItems_eq]

theorem listOfJson_eq (list : Option Json) :
    listOfJson list = listOfItems ((list.bind Json.asItems?).getD []) := by
  cases list with
  | none => rfl
  | some j => cases j <;> rfl

/-- The columns come from the first item of every id, one after the other. -/
structure FirstOfItems (items : List Json) (columns : List Column) : Prop where
  distinct : (columns.map (·.fieldId)).Nodup
  identified : ∀ c ∈ columns, Text.allBlank c.fieldId = false
  named : ∀ c ∈ columns, Text.allBlank c.fieldName = false
  mem_iff (id : String) : id ∈ columns.map (·.fieldId) ↔ ∃ item ∈ items, item.carriedId? = some id
  first : ∀ c ∈ columns, ∃ members,
    items.find? (Json.carries c.fieldId) = some (.obj members) ∧ ReadFrom members c
  inOrder : columns.Pairwise fun c d =>
    items.findIdx (Json.carries c.fieldId) < items.findIdx (Json.carries d.fieldId)

theorem firstOfItems_nil : FirstOfItems [] [] where
  distinct := List.nodup_nil
  identified := by simp
  named := by simp
  mem_iff id := by simp
  first := by simp
  inOrder := .nil

theorem FirstOfItems.pass
    {columns : List Column} (hrest : FirstOfItems rest columns) (hitem : item.carriedId? = none) :
    FirstOfItems (item :: rest) columns := by
  have hother (id : String) : item.carries id = false := by
    rw [Json.carries, hitem]
    rfl
  refine ⟨hrest.distinct, hrest.identified, hrest.named, ?_, ?_, ?_⟩
  · intro id
    simp only [hrest.mem_iff, List.mem_cons, exists_eq_or_imp, hitem, reduceCtorEq, false_or]
  · intro c hc
    rw [Json.find?_carries_cons (hother _)]
    exact hrest.first c hc
  · refine hrest.inOrder.imp fun {c d} hbefore => ?_
    rw [Json.findIdx_carries_cons (hother _), Json.findIdx_carries_cons (hother _)]
    exact Nat.succ_lt_succ hbefore

theorem FirstOfItems.take
    {columns : List Column} (hrest : FirstOfItems rest columns) (hitem : ofItem? item = some c) :
    FirstOfItems (item :: rest)
      (c.named :: columns.filter fun d => d.fieldId ≠ c.fieldId) := by
  obtain ⟨members, rfl, rfl, hid⟩ := of_ofItem?_eq_some hitem
  generalize hmade : ofMembers members = c at hid hitem ⊢
  have hcarried : (Json.obj members).carriedId? = some c.fieldId := by
    rw [carriedId?_eq, hitem, Option.map_some]
  have hlater : ∀ d ∈ columns.filter fun d => d.fieldId ≠ c.fieldId,
      d ∈ columns ∧ d.fieldId ≠ c.fieldId := by
    intro d hd
    simpa using List.mem_filter.1 hd
  have hpasses : ∀ d ∈ columns.filter fun d => d.fieldId ≠ c.fieldId,
      (Json.obj members).carries d.fieldId = false :=
    fun d hd => Json.carries_of_ne hcarried (hlater d hd).2
  have hown : (Json.obj members).carries c.fieldId = true := Json.carries_iff.2 hcarried
  constructor
  · rw [List.map_cons, fieldId_named, List.nodup_cons]
    refine ⟨?_, hrest.distinct.sublist (List.filter_sublist.map _)⟩
    intro hmem
    obtain ⟨d, hd, hsame⟩ := List.mem_map.1 hmem
    exact (hlater d hd).2 hsame
  · refine List.forall_mem_cons.2 ⟨?_, fun d hd => hrest.identified d (hlater d hd).1⟩
    rwa [fieldId_named]
  · exact List.forall_mem_cons.2 ⟨fieldName_named hid, fun d hd => hrest.named d (hlater d hd).1⟩
  · intro id
    rw [List.map_cons, fieldId_named, List.mem_cons, mem_fieldIds_others, hrest.mem_iff]
    simp only [List.mem_cons, exists_eq_or_imp, hcarried, Option.some.injEq, eq_comm (b := id)]
    by_cases hown : id = c.fieldId <;> simp [hown]
  · refine List.forall_mem_cons.2 ⟨?_, fun d hd => ?_⟩
    · refine ⟨members, ?_, hmade ▸ readFrom_ofMembers members⟩
      rw [fieldId_named, List.find?_cons_of_pos hown]
    · rw [Json.find?_carries_cons (hpasses d hd)]
      exact hrest.first d (hlater d hd).1
  · refine List.pairwise_cons.2 ⟨fun d hd => ?_, ?_⟩
    · rw [fieldId_named, Json.findIdx_carries_own hown, Json.findIdx_carries_cons (hpasses d hd)]
      exact Nat.succ_pos _
    · refine (hrest.inOrder.filter _).imp_of_mem fun {d e} hd he hbefore => ?_
      rw [Json.findIdx_carries_cons (hpasses d hd), Json.findIdx_carries_cons (hpasses e he)]
      exact Nat.succ_lt_succ hbefore

theorem firstOfItems_listOfItems (items : List Json) : FirstOfItems items (listOfItems items) := by
  induction items with
  | nil => exact firstOfItems_nil
  | cons item rest ih =>
      cases hitem : ofItem? item with
      | none =>
          rw [listOfItems_of_passed hitem]
          refine ih.pass ?_
          rw [carriedId?_eq, hitem, Option.map_none]
      | some c =>
          rw [listOfItems_of_taken hitem]
          exact ih.take hitem

end Column

namespace Schema

/-- The items under `columns`; what is no array has none. -/
def columnItems (root : List (String × Json)) : List Json :=
  ((Keyed.get? (config root) "columns").bind Json.asItems?).getD []

theorem firstOfItems_of_ofJson
    {root : List (String × Json)} {schema : Schema} (hschema : ofJson (.obj root) = .ok schema) :
    Column.FirstOfItems (columnItems root) schema.columns := by
  rw [columns_of_ofJson hschema, Column.listOfJson_eq]
  exact Column.firstOfItems_listOfItems _

/-- Every document describes columns with ids and names, each id once: for every id
that an item carries, the column of the first item that does, in the order of these
items, whether the item can be read as a whole or not. -/
theorem columns_of_first_items (root : List (String × Json)) :
    ∃ schema, ofJson (.obj root) = .ok schema ∧
      Column.FirstOfItems (columnItems root) schema.columns := by
  have hschema : ofJson (.obj root) = .ok _ := rfl
  exact ⟨_, hschema, firstOfItems_of_ofJson hschema⟩

end Schema

end RecordGrid
