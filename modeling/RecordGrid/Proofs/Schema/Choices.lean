import RecordGrid.Field.Behavior
import RecordGrid.Proofs.Json.ScalarText
import RecordGrid.Proofs.Schema.Columns

/-!
# Options and the values they were given as

An option has a text for its value, whatever scalar it was given as.  Whoever
chooses it by that scalar is understood through the text that the scalar has for
people.
-/

namespace RecordGrid

theorem Json.mem_iff_of_mapM
    {α : Type} {read : Json → Option α} {items : List Json} {as : List α}
    (hread : items.mapM read = some as) {a : α} :
    a ∈ as ↔ ∃ j ∈ items, read j = some a := by
  induction items generalizing as with
  | nil =>
      cases hread
      simp
  | cons j rest ih =>
      rw [List.mapM_cons] at hread
      obtain ⟨first, hfirst, hread⟩ := Option.bind_eq_some_iff.1 hread
      obtain ⟨later, hlater, hread⟩ := Option.bind_eq_some_iff.1 hread
      cases hread
      simp only [List.mem_cons, ih hlater, or_and_right, exists_or, exists_eq_left, hfirst,
        Option.some.injEq, eq_comm (a := a)]

namespace Choice

variable {o : Choice} {x list : Json} {choices : List Choice}

/-- The value that an option is given as. -/
def given? (j : Json) : Option Json :=
  (Json.record? keys j).bind fun r => r.lookup "value"

theorem exists_given {j : Json} (hread : ofJson? j = some o) :
    ∃ x, given? j = some x ∧ x.asScalarText? = some o.value := by
  obtain ⟨r, hrecord, hread⟩ := Option.bind_eq_some_iff.1 hread
  obtain ⟨label, -, hread⟩ := Option.bind_eq_some_iff.1 hread
  obtain ⟨value, hvalue, hread⟩ := Option.bind_eq_some_iff.1 hread
  cases hread
  obtain ⟨x, hx, htext⟩ := Option.bind_eq_some_iff.1 hvalue
  refine ⟨x, ?_, htext⟩
  rw [given?, hrecord, Option.bind_some, hx]

/-- The option `o` stands in a list, and is given as `x` there. -/
inductive GivenIn (o : Choice) (x : Json) : Json → Prop
  | item {items : List Json} {j : Json} (hitem : j ∈ items) (hread : ofJson? j = some o)
      (hgiven : given? j = some x) : GivenIn o x (.arr items)

theorem GivenIn.text (hgiven : o.GivenIn x list) : x.asScalarText? = some o.value := by
  obtain ⟨-, hread, hgiven⟩ := hgiven
  obtain ⟨y, hy, htext⟩ := exists_given hread
  cases hy.symm.trans hgiven
  exact htext

/-- The options that are read from a list are those that are given in it. -/
theorem mem_iff_exists_givenIn (hlist : Json.asList? ofJson? list = some choices) :
    o ∈ choices ↔ ∃ x, o.GivenIn x list := by
  cases list with
  | arr items =>
      rw [Json.mem_iff_of_mapM hlist]
      constructor
      · rintro ⟨j, hitem, hread⟩
        obtain ⟨x, hgiven, -⟩ := exists_given hread
        exact ⟨x, .item hitem hread hgiven⟩
      · rintro ⟨x, hitem, hread, -⟩
        exact ⟨_, hitem, hread⟩
  | _ => cases hlist

end Choice

theorem Schema.columns_of_ofJson
    {root : List (String × Json)} {schema : Schema} (hschema : ofJson (.obj root) = .ok schema) :
    schema.columns = Column.listOfJson (Keyed.get? (config root) "columns") := by
  cases hschema
  rfl

namespace Column

variable {c : Column} {o : Choice} {x : Json}

theorem options_of_ofJson?
    {members : List (String × Json)} (hread : ofJson? (.obj members) = some c) :
    Json.defaulted members "options" [] (Json.asList? Choice.ofJson?) = some c.options := by
  obtain ⟨r, hrecord, hread⟩ := Option.bind_eq_some_iff.1 hread
  obtain rfl : members = r := Option.some.inj (Option.ite_none_right_eq_some.1 hrecord).2
  iterate 9 obtain ⟨_, -, hread⟩ := Option.bind_eq_some_iff.1 hread
  obtain ⟨options, hoptions, hread⟩ := Option.bind_eq_some_iff.1 hread
  iterate 11 obtain ⟨_, -, hread⟩ := Option.bind_eq_some_iff.1 hread
  cases hread
  exact hoptions

/-- A column with options was not salvaged. -/
theorem exists_list_of_mem_options
    {members : List (String × Json)} (ho : o ∈ (ofMembers members).options) :
    ∃ list, ofJson? (.obj members) = some (ofMembers members) ∧
      members.lookup "options" = some list ∧
      Json.asList? Choice.ofJson? list = some (ofMembers members).options := by
  unfold ofMembers at ho ⊢
  cases hread : ofJson? (.obj members) with
  | none =>
      rw [hread] at ho
      cases ho
  | some c =>
      rw [hread, Option.getD_some] at ho
      have hoptions := options_of_ofJson? hread
      unfold Json.defaulted at hoptions
      split at hoptions
      · rw [← Option.some.inj hoptions] at ho
        cases ho
      · rename_i list hlist
        exact ⟨list, rfl, hlist, hoptions⟩

@[simp] theorem options_named (c : Column) : c.named.options = c.options := by
  unfold named
  split <;> rfl

theorem named_eq_self (hname : Text.allBlank c.fieldName = false) : c.named = c :=
  if_neg (ne_true_of_eq_false hname)

theorem listOfItems_singleton
    {members : List (String × Json)} (hread : ofJson? (.obj members) = some c)
    (hid : Text.allBlank c.fieldId = false) (hname : Text.allBlank c.fieldName = false) :
    listOfItems [.obj members] = [c] := by
  simp [listOfItems, Json.asMembers?, ofMembers, hread, hid, firstOfEach, named_eq_self hname]

/-- In a schema document the column `c` has the option `o`, which is given as
`x`. -/
inductive GivenIn (c : Column) (o : Choice) (x : Json) : Json → Prop
  | item {root members : List (String × Json)} {items : List Json} {list : Json} {read : Column}
      (hitems : Keyed.get? (Schema.config root) "columns" = some (.arr items))
      (hitem : .obj members ∈ items) (hread : ofJson? (.obj members) = some read)
      (hnamed : read.named = c) (hlist : members.lookup "options" = some list)
      (hgiven : o.GivenIn x list) : GivenIn c o x (.obj root)

/-- Every option of a column that is read from a document is given in it. -/
theorem exists_givenIn
    {document : Json} {schema : Schema} (hschema : Schema.ofJson document = .ok schema)
    (hc : c ∈ schema.columns) (ho : o ∈ c.options) : ∃ x, c.GivenIn o x document := by
  cases document with
  | obj root =>
      rw [Schema.columns_of_ofJson hschema] at hc
      unfold listOfJson at hc
      split at hc
      · rename_i items hitems
        obtain ⟨members, hitem, -, rfl⟩ := exists_members_of_mem_listOfItems hc
        rw [options_named] at ho
        obtain ⟨list, hread, hlist, hoptions⟩ := exists_list_of_mem_options ho
        obtain ⟨x, hgiven⟩ := (Choice.mem_iff_exists_givenIn hoptions).1 ho
        exact ⟨x, .item hitems hitem hread rfl hlist hgiven⟩
      · cases hc
  | _ => cases hschema

theorem GivenIn.option_mem {document : Json} (hgiven : c.GivenIn o x document) :
    o ∈ c.options ∧ x.asScalarText? = some o.value := by
  obtain ⟨-, -, hread, rfl, hlist, hgiven⟩ := hgiven
  have hoptions := options_of_ofJson? hread
  rw [Json.defaulted, hlist] at hoptions
  rw [options_named, Choice.mem_iff_exists_givenIn hoptions]
  exact ⟨⟨x, hgiven⟩, hgiven.text⟩

end Column

namespace Behavior

/-- A field with choices offers the option `o`, which was given as `x`: in the
schema document that its column was read from, or by the host. -/
inductive Offers : OptionSource → FieldContext → Choice → Json → Prop
  | column {ctx : FieldContext} {o : Choice} {x document : Json} {schema : Schema}
      (hschema : Schema.ofJson document = .ok schema) (hcolumn : ctx.column ∈ schema.columns)
      (hgiven : ctx.column.GivenIn o x document) : Offers .column ctx o x
  | supplied {ctx : FieldContext} {o : Choice} {x list : Json} {choices : List Choice}
      (hlist : Json.asList? Choice.ofJson? list = some choices)
      (hsupplied : ctx.supplied = some choices) (hgiven : o.GivenIn x list) :
      Offers .supplied ctx o x

variable {source : OptionSource} {ctx : FieldContext} {o : Choice} {x : Json}

theorem Offers.option_mem (hoffers : Offers source ctx o x) :
    o ∈ (Behavior.choice source).options ctx ∧ x.asScalarText? = some o.value := by
  cases hoffers with
  | column hschema hcolumn hgiven => exact hgiven.option_mem
  | supplied hlist hsupplied hgiven =>
      refine ⟨?_, hgiven.text⟩
      rw [options, hsupplied, Option.getD_some, Choice.mem_iff_exists_givenIn hlist]
      exact ⟨x, hgiven⟩

theorem coerce_choice (hscalar : x.asScalarText?.isSome) :
    (Behavior.choice source).coerce ctx x =
      if admitsChoice source ctx x.displayText then .ok (.str x.displayText)
      else .error (.invalidOption ctx.column.fieldId x.displayText) := by
  cases x with
  | arr _ | obj _ => cases hscalar
  | _ => rfl

/-- A scalar chooses the option whose value is the text that the scalar has for
people. -/
theorem coerce_choice_iff (hmem : o ∈ (Behavior.choice source).options ctx)
    (hscalar : x.asScalarText?.isSome) :
    (Behavior.choice source).coerce ctx x = .ok (.str o.value) ↔ x.displayText = o.value := by
  rw [coerce_choice hscalar]
  constructor
  · intro hchosen
    split at hchosen
    · exact Json.str.inj (Except.ok.inj hchosen)
    · cases hchosen
  · intro hsame
    have hadmits : admitsChoice source ctx x.displayText = true := by
      rw [hsame, admitsChoice, Bool.or_eq_true, List.any_eq_true]
      exact .inr ⟨o, hmem, beq_self_eq_true _⟩
    rw [if_pos hadmits, hsame]

/-- An option is chosen by the value it was given as if that value has one text,
so by every string, every boolean and null, by whole numbers up to `2 ^ 53` and by
doubles with a point.  A double that is a whole number never chooses the option
that was given as it: the option has a point in its value, and the choice has none. -/
theorem offered_value_chooses (hoffers : Offers source ctx o x) :
    let choose := (Behavior.choice source).coerce ctx x
    o ∈ (Behavior.choice source).options ctx ∧
    (choose = .ok (.str o.value) ↔ x.displayText = o.value) ∧
    (x.HasOneText → choose = .ok (.str o.value)) ∧
    ∀ n : Int, n.natAbs ≤ 2 ^ 53 → x = .float (Float.ofInt n) →
      o.value = toString n ++ ".0" ∧ choose ≠ .ok (.str o.value) := by
  intro choose
  obtain ⟨hmem, htext⟩ := hoffers.option_mem
  have hiff : choose = .ok (.str o.value) ↔ x.displayText = o.value :=
    coerce_choice_iff hmem (by rw [htext]; rfl)
  refine ⟨hmem, hiff, ?_, ?_⟩
  · intro hone
    rw [hiff]
    exact Option.some.inj (hone.asScalarText?_eq.symm.trans htext)
  · rintro n hn rfl
    obtain ⟨hshown, hwritten⟩ := Json.texts_of_whole_float hn
    have hvalue : o.value = toString n ++ ".0" := Option.some.inj (htext.symm.trans hwritten)
    refine ⟨hvalue, ?_⟩
    rw [Ne, hiff, hshown, hvalue]
    intro hsame
    have hlength := congrArg String.length hsame
    rw [String.length_append] at hlength
    exact absurd hlength (Nat.ne_of_lt (Nat.lt_add_of_pos_right (by decide)))

/-- A column of grades, with the value of its one option. -/
def gradeColumn (value : Json) : List (String × Json) :=
  [("field_id", .str "grade"), ("field_name", .str "Grade"), ("field_type", .str "enum"),
    ("options", .arr [.obj [("label", .str "Best"), ("value", value)]])]

def gradeDocument (value : Json) : Json := .obj [("columns", .arr [.obj (gradeColumn value)])]

/-- The column that is read from the document. -/
def grades (text : String) : Column :=
  { Column.plain "grade" "Grade" "enum" with options := [⟨"Best", text⟩] }

theorem offers_grade {x : Json} {text : String} (hx : x.asScalarText? = some text) :
    Offers .column { column := grades text } ⟨"Best", text⟩ x := by
  have hchoice : Choice.ofJson? (.obj [("label", .str "Best"), ("value", x)]) =
      some ⟨"Best", text⟩ :=
    Json.bind_eq_some rfl <| Json.bind_eq_some rfl <| Json.bind_eq_some hx rfl
  have hlist : Json.asList? Choice.ofJson? (.arr [.obj [("label", .str "Best"), ("value", x)]]) =
      some [⟨"Best", text⟩] := by
    rw [Json.asList?, List.mapM_cons, hchoice]
    rfl
  have hread : Column.ofJson? (.obj (gradeColumn x)) = some (grades text) := by
    iterate 10 refine Json.bind_eq_some rfl ?_
    refine Json.bind_eq_some hlist ?_
    iterate 11 refine Json.bind_eq_some rfl ?_
    rfl
  have hid : Text.allBlank "grade" = false := rfl
  have hname : Text.allBlank "Grade" = false := rfl
  have hcolumns : Column.listOfItems [.obj (gradeColumn x)] = [grades text] :=
    Column.listOfItems_singleton hread hid hname
  have hschema : Schema.ofJson (gradeDocument x) = .ok _ := rfl
  refine .column hschema ?_ ?_
  · rw [Schema.columns_of_ofJson hschema]
    change grades text ∈ Column.listOfItems [.obj (gradeColumn x)]
    rw [hcolumns]
    exact List.mem_singleton_self _
  · exact .item rfl (List.mem_singleton_self _) hread (Column.named_eq_self hname) rfl
      (.item (List.mem_singleton_self _) hchoice rfl)

/-- A grade that is given as a number with a point is chosen by this number. -/
theorem offered_value_chooses_grade :
    (Behavior.choice .column).coerce { column := grades "2.5" } (.float 2.5) =
      .ok (.str "2.5") := by
  have htext : Json.asScalarText? (.float 2.5) = some "2.5" := rfl
  obtain ⟨-, -, hchosen, -⟩ := offered_value_chooses (offers_grade htext)
  exact hchosen (.float rfl)

/-- A grade that is given as `2.0` is refused when `2.0` is sent. -/
theorem whole_double_grade_refused :
    Offers .column { column := grades "2.0" } ⟨"Best", "2.0"⟩ (.float 2.0) ∧
      (Behavior.choice .column).coerce { column := grades "2.0" } (.float 2.0) =
        .error (.invalidOption "grade" "2") := by
  have htext : Json.asScalarText? (.float 2.0) = some "2.0" := rfl
  have hshown : Json.displayText (.float 2.0) = "2" := rfl
  refine ⟨offers_grade htext, ?_⟩
  rw [coerce_choice (by rw [htext]; rfl), hshown]
  rfl

end Behavior
end RecordGrid
