import Mathlib.Data.List.Nodup
import RecordGrid.Proofs.View.Derived

/-!
# What the compiled expressions of columns hold

The texts that columns use are those of their formulas and conditions, without
the blanks around them and leaving out those that are nothing but blanks.  The
compiled expressions of columns hold every one of these texts once, in its
compiled form, and no other text.
-/

namespace RecordGrid

namespace Text

theorem trimmed_eq_nil_iff (cs : List Char) : trimmed cs = [] ↔ cs.all isBlank = true := by
  rw [trimmed_eq, List.rdropWhile_eq_nil_iff, List.all_eq_true]
  constructor
  · intro hrest
    have hnone : (cs.dropWhile isBlank).dropWhile isBlank = [] :=
      List.dropWhile_eq_nil_iff.2 hrest
    rw [List.dropWhile_idempotent] at hnone
    exact List.dropWhile_eq_nil_iff.1 hnone
  · intro hall
    have hnone : cs.dropWhile isBlank = [] := List.dropWhile_eq_nil_iff.2 hall
    simp [hnone]

theorem trim_isEmpty (s : String) : (trim s).isEmpty = allBlank s := by
  rw [Bool.eq_iff_iff, String.isEmpty_iff, allBlank, ← trimmed_eq_nil_iff, trim]
  constructor
  · intro hempty
    simpa using congrArg String.toList hempty
  · intro hempty
    rw [hempty]

end Text

namespace Column

/-- The text is the formula of the column, or its condition. -/
def Uses (c : Column) (text : String) : Prop :=
  c.formula = some text ∨ c.visibilityCondition = some text

theorem content?_eq_some_iff {field : Option String} {source : String} :
    content? field = some source ↔
      ∃ text, field = some text ∧ Text.allBlank text = false ∧ Text.trim text = source := by
  unfold content?
  cases field with
  | none => simp
  | some text =>
      rw [Option.map_some, Option.filter_eq_some_iff]
      constructor
      · rintro ⟨hsource, hfilled⟩
        have htrim : Text.trim text = source := Option.some.inj hsource
        rw [← htrim, Text.trim_isEmpty] at hfilled
        exact ⟨text, rfl, by simpa using hfilled, htrim⟩
      · rintro ⟨other, hother, hfilled, hsource⟩
        have hsame : text = other := Option.some.inj hother
        rw [hsame, hsource]
        rw [← Text.trim_isEmpty, hsource] at hfilled
        exact ⟨rfl, by simp [hfilled]⟩

end Column

namespace Expressions

/-- Some column uses the text, with blanks around it or without; there is
something else in it than blanks. -/
def UsedBy (columns : List Column) (source : String) : Prop :=
  ∃ c ∈ columns, ∃ text,
    c.Uses text ∧ Text.allBlank text = false ∧ Text.trim text = source

variable {columns : List Column}

theorem mem_sourcesOf_iff {c : Column} {source : String} :
    source ∈ sourcesOf c ↔
      ∃ text, c.Uses text ∧ Text.allBlank text = false ∧ Text.trim text = source := by
  have hformula : source ∈ c.formulaSource?.toList ↔ Column.content? c.formula = some source :=
    Option.mem_toList
  have hcondition :
      source ∈ c.visibilitySource?.toList ↔
        Column.content? c.visibilityCondition = some source :=
    Option.mem_toList
  rw [sourcesOf, List.mem_append, hformula, hcondition, Column.content?_eq_some_iff,
    Column.content?_eq_some_iff, ← exists_or]
  refine exists_congr fun text => ?_
  rw [Column.Uses, ← or_and_right]

theorem mem_distinct_iff {α : Type} [DecidableEq α] {a : α} {as : List α} :
    a ∈ distinct as ↔ a ∈ as := by
  refine ⟨mem_of_mem_distinct, ?_⟩
  induction as with
  | nil => exact id
  | cons b rest ih =>
      intro ha
      rw [distinct, List.mem_cons, List.mem_filter, decide_eq_true_eq]
      by_cases hsame : a = b
      · exact .inl hsame
      · have hrest : a ∈ rest := (List.mem_cons.1 ha).resolve_left hsame
        exact .inr ⟨ih hrest, hsame⟩

theorem nodup_distinct {α : Type} [DecidableEq α] (as : List α) : (distinct as).Nodup := by
  induction as with
  | nil => exact List.nodup_nil
  | cons b rest ih =>
      rw [distinct, List.nodup_cons]
      exact ⟨by simp [List.mem_filter], ih.filter _⟩

theorem mem_sources_iff {source : String} : source ∈ sources columns ↔ UsedBy columns source := by
  simp only [sources, mem_distinct_iff, List.mem_flatMap, mem_sourcesOf_iff, UsedBy]

theorem compiled_forColumns (columns : List Column) :
    (forColumns columns).compiled = (sources columns).map Compiled.ofText := by
  rw [forColumns, faithful_empty.refresh_eq]

theorem sources_forColumns (columns : List Column) :
    (forColumns columns).compiled.map (·.source) = sources columns := by
  have hsource : (·.source) ∘ Compiled.ofText = id := rfl
  rw [compiled_forColumns, List.map_map, hsource, List.map_id]

/-- An entry is the compiled form of a text in use. -/
theorem mem_forColumns_iff {entry : Compiled} :
    entry ∈ (forColumns columns).compiled ↔
      entry = Compiled.ofText entry.source ∧ UsedBy columns entry.source := by
  rw [compiled_forColumns, List.mem_map]
  constructor
  · rintro ⟨source, hsource, rfl⟩
    exact ⟨rfl, mem_sources_iff.1 hsource⟩
  · rintro ⟨hentry, hused⟩
    exact ⟨entry.source, mem_sources_iff.2 hused, hentry.symm⟩

theorem of_get?_forColumns
    {text : String} {entry : Compiled} (hfound : (forColumns columns).get? text = some entry) :
    entry = Compiled.ofText (Text.trim text) ∧ UsedBy columns (Text.trim text) := by
  have hname : entry.source = Text.trim text := by
    simpa using List.find?_some hfound
  obtain ⟨hentry, hused⟩ := mem_forColumns_iff.1 (List.mem_of_find?_eq_some hfound)
  rw [hname] at hentry hused
  exact ⟨hentry, hused⟩

/-- What is found for a text is its compiled form, where it is in use. -/
theorem get?_forColumns_eq_some_iff {text : String} {entry : Compiled} :
    (forColumns columns).get? text = some entry ↔
      entry = Compiled.ofText (Text.trim text) ∧ UsedBy columns (Text.trim text) := by
  refine ⟨of_get?_forColumns, ?_⟩
  rintro ⟨rfl, hused⟩
  have hkept : Compiled.ofText (Text.trim text) ∈ (forColumns columns).compiled :=
    mem_forColumns_iff.2 ⟨rfl, hused⟩
  have hsome : ((forColumns columns).get? text).isSome = true :=
    List.find?_isSome.2 ⟨_, hkept, beq_self_eq_true _⟩
  obtain ⟨found, hfound⟩ := Option.isSome_iff_exists.1 hsome
  rw [hfound, (of_get?_forColumns hfound).1]

end Expressions

end RecordGrid
