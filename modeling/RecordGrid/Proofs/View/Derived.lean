import Mathlib.Data.List.DropRight
import RecordGrid.Layout.Header
import RecordGrid.View.Expressions

/-!
# What is derived from columns

The compiled expressions and the header depend on nothing but the columns: not
on what was compiled before, and not on settings of columns that show in
neither of them.
-/

namespace RecordGrid

namespace Text

theorem trimmed_eq (cs : List Char) :
    trimmed cs = (cs.dropWhile isBlank).rdropWhile isBlank := rfl

theorem trimmed_trimmed (cs : List Char) : trimmed (trimmed cs) = trimmed cs := by
  -- what is left at the start is the first character, and no blank
  have hstart : (trimmed cs).dropWhile isBlank = trimmed cs := by
    rw [List.dropWhile_eq_self_iff]
    intro hlength
    have hbegins : trimmed cs <+: cs.dropWhile isBlank := List.rdropWhile_prefix ..
    rw [hbegins.getElem hlength]
    exact List.dropWhile_get_zero_not isBlank cs _
  calc trimmed (trimmed cs)
      = ((trimmed cs).dropWhile isBlank).rdropWhile isBlank := rfl
    _ = (trimmed cs).rdropWhile isBlank := by rw [hstart]
    _ = trimmed cs := by rw [trimmed_eq, List.rdropWhile_idempotent]

@[simp] theorem trim_trim (s : String) : trim (trim s) = trim s := by
  simp [trim, trimmed_trimmed]

end Text

/-! ## Expressions -/

namespace Expressions

theorem trim_of_content?
    {text : Option String} {source : String} (hsource : Column.content? text = some source) :
    Text.trim source = source := by
  unfold Column.content? at hsource
  cases text with
  | none => cases hsource
  | some text =>
      rw [Option.map_some, Option.filter_eq_some_iff] at hsource
      rw [← Option.some.inj hsource.1, Text.trim_trim]

theorem mem_of_mem_distinct
    {α : Type} [DecidableEq α] {a : α} {as : List α} (ha : a ∈ distinct as) : a ∈ as := by
  induction as with
  | nil => cases ha
  | cons b rest ih =>
      rcases List.mem_cons.1 ha with rfl | ha
      · exact List.mem_cons_self ..
      · exact List.mem_cons_of_mem b (ih (List.mem_filter.1 ha).1)

theorem trim_of_mem_sources
    {columns : List Column} {source : String} (hsource : source ∈ sources columns) :
    Text.trim source = source := by
  obtain ⟨c, -, hc⟩ := List.mem_flatMap.1 (mem_of_mem_distinct hsource)
  simp only [sourcesOf, List.mem_append, Option.mem_toList] at hc
  rcases hc with hformula | hvisibility
  · exact trim_of_content? hformula
  · exact trim_of_content? hvisibility

/-- Nothing but compiled texts is kept. -/
def Faithful (e : Expressions) : Prop := ∀ c ∈ e.compiled, c = Compiled.ofText c.source

/-- Whether a text was kept or is compiled anew makes no difference. -/
theorem Faithful.refresh_eq
    {e : Expressions} (he : e.Faithful) (columns : List Column) :
    e.refresh columns = ⟨(sources columns).map Compiled.ofText⟩ := by
  unfold refresh
  congr 1
  refine List.map_congr_left fun source hsource => ?_
  cases hkept : e.get? source with
  | none => rfl
  | some c =>
      have hc := he c (List.mem_of_find?_eq_some hkept)
      have hname := List.find?_some hkept
      rw [beq_iff_eq, trim_of_mem_sources hsource] at hname
      rw [Option.getD_some, hc, hname]

theorem faithful_empty : Faithful {} := by
  intro c hc
  cases hc

theorem faithful_forColumns (columns : List Column) : (forColumns columns).Faithful := by
  rw [forColumns, faithful_empty.refresh_eq]
  intro c hc
  obtain ⟨source, -, rfl⟩ := List.mem_map.1 hc
  rfl

theorem refresh_forColumns (before columns : List Column) :
    (forColumns before).refresh columns = forColumns columns := by
  rw [(faithful_forColumns before).refresh_eq, forColumns, faithful_empty.refresh_eq]

end Expressions

/-! ## Columns that look the same -/

/-- A column with only what the expressions and the header depend on. -/
def Column.outline (c : Column) : Column :=
  { fieldId := c.fieldId, fieldName := c.fieldName, formula := c.formula,
    visibilityCondition := c.visibilityCondition }

theorem Column.outline_eq_of_beq
    {c d : Column} (h : (c == d) = true) : c.outline = d.outline := by
  change instBEqColumn.beq c d = true at h
  cases c
  cases d
  simp only [instBEqColumn.beq, Bool.and_eq_true, beq_iff_eq] at h
  obtain ⟨hid, hname, -, -, -, -, -, -, -, -, hformula, -, -, -, -, -, -, -, -, -, hvisibility⟩ := h
  simp only [outline, hid, hname, hformula, hvisibility]

theorem outlines_eq_of_beq
    {columns others : List Column} (h : (columns == others) = true) :
    columns.map Column.outline = others.map Column.outline := by
  induction columns generalizing others with
  | nil =>
      cases others with
      | nil => rfl
      | cons d rest => cases h
  | cons c rest ih =>
      cases others with
      | nil => cases h
      | cons d others =>
          rw [List.cons_beq_cons, Bool.and_eq_true] at h
          rw [List.map_cons, List.map_cons, Column.outline_eq_of_beq h.1, ih h.2]

theorem Expressions.sources_outline (columns : List Column) :
    sources (columns.map Column.outline) = sources columns := by
  simp only [sources, List.flatMap_map]
  rfl

theorem Expressions.forColumns_outline (columns : List Column) :
    forColumns (columns.map Column.outline) = forColumns columns := by
  simp only [forColumns, refresh, sources_outline]

theorem HeaderLayout.ofColumns_outline (description : Option (List HeaderNode)) (columns : List Column) :
    ofColumns description (columns.map Column.outline) = ofColumns description columns := by
  simp only [ofColumns, HeaderNode.forColumns, List.map_map, List.foldl_map]
  rfl

theorem Expressions.forColumns_eq_of_beq
    {columns others : List Column} (h : (columns == others) = true) :
    forColumns columns = forColumns others := by
  rw [← forColumns_outline columns, outlines_eq_of_beq h, forColumns_outline]

theorem HeaderLayout.ofColumns_eq_of_beq
    (description : Option (List HeaderNode)) {columns others : List Column}
    (h : (columns == others) = true) :
    ofColumns description columns = ofColumns description others := by
  rw [← ofColumns_outline description columns, outlines_eq_of_beq h, ofColumns_outline]

end RecordGrid
