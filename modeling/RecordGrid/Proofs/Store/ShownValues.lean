import RecordGrid.Proofs.Grid.Copied
import RecordGrid.Proofs.Grid.Merged
import RecordGrid.Proofs.Store.LateAnswers
import RecordGrid.Proofs.Store.Undo
import RecordGrid.Proofs.Store.Views
import RecordGrid.Proofs.View.Formulas

/-!
# What merged and copied columns show

A merge of columns and a split work on what records hold, and a cell shows more
than that: under a formula column it shows what the formula gives.  So a merged
column shows the texts of both columns as long as both hold what they show, and
a copy shows the same as its source unless its formula reads the source.
-/

namespace RecordGrid

theorem Row.textAt_eq (row : Row) (fieldId : String) :
    row.textAt fieldId = ((Keyed.get? row fieldId).getD .null).displayText := by
  unfold textAt
  cases Keyed.get? row fieldId with
  | none => simp [Json.displayText]
  | some value => rfl

namespace Schema

/-- A document with a formula that reads its own column. -/
def echoedDocument : Json :=
  .obj
    [("columns", .arr
      [.obj [("field_id", .str "echo"), ("field_type", .str "formula"),
        ("formula", .str "echo + '!'")]])]

def echoed : Schema where
  columns := [{ Column.plain "echo" "echo" "formula" with formula := some "echo + '!'" }]

theorem echoed_isRead : echoed.IsRead := ⟨echoedDocument, rfl⟩

/-- A document with a record that holds nothing in the only column, but a value under
the identifier that a copy of it will have. -/
def leftoverDocument : Json :=
  .obj
    [("columns", .arr [.obj [("field_id", .str "a"), ("field_type", .str "text")]]),
      ("preload_rows", .arr [.obj [("a_copy", .str "old")]])]

def leftover : Schema where
  columns := [.plain "a" "a" "text"]
  preloadRows := some [[("a_copy", .str "old")]]

theorem leftover_isRead : leftover.IsRead := ⟨leftoverDocument, rfl⟩

end Schema

namespace Store

variable {s : Store} {c : Column} {row : Nat} {record : Row}

/-! ## Values in cells -/

/-- The value that a cell shows, where there is the cell. -/
def shownValue? (s : Store) (row : Nat) (fieldId : String) : Option Json :=
  (s.cellView? row fieldId).map (·.value)

theorem Reachable.faithful
    {admits : Schema → Prop} (hs : Reachable admits s) : s.viewer.expressions.Faithful := by
  have hfaithful := Expressions.faithful_forColumns s.grid.columns
  rwa [← hs.coherent.expressions] at hfaithful

theorem Reachable.shownValue?_eq
    (hs : Reachable Schema.IsRead s) (hrecord : s.grid.rows[row]? = some record)
    (hc : c ∈ s.grid.columns) :
    s.shownValue? row c.fieldId =
      some ((Keyed.get? (s.viewer.derive s.grid.columns record) c.fieldId).getD .null) := by
  rw [shownValue?, cellView?_of_mem hs.consistent.grid.distinct hrecord hc]
  rfl

/-- A column without a formula shows what the record holds. -/
theorem Reachable.shownValue?_of_stored
    (hs : Reachable Schema.IsRead s) (hrecord : s.grid.rows[row]? = some record)
    (hc : c ∈ s.grid.columns) (hstored : ¬s.viewer.Derives c) :
    s.shownValue? row c.fieldId = some ((Keyed.get? record c.fieldId).getD .null) := by
  have hothers : ∀ d ∈ s.grid.columns, s.viewer.Derives d → d.fieldId ≠ c.fieldId := by
    intro d hd hderives hid
    have hsame : d = c := List.inj_on_of_nodup_map hs.consistent.grid.distinct hd hc hid
    rw [hsame] at hderives
    exact hstored hderives
  rw [hs.shownValue?_eq hrecord hc, Viewer.get?_derive_of_ne hothers]

theorem Reachable.textAt_eq_displayText
    (hs : Reachable Schema.IsRead s) (hrecord : s.grid.rows[row]? = some record)
    (hc : c ∈ s.grid.columns) (hstored : ¬s.viewer.Derives c) {value : Json}
    (hvalue : s.shownValue? row c.fieldId = some value) :
    record.textAt c.fieldId = value.displayText := by
  rw [hs.shownValue?_of_stored hrecord hc hstored] at hvalue
  rw [Row.textAt_eq, Option.some.inj hvalue]

/-- A formula column shows what its formula gives on the record with the
formulas before it filled in. -/
theorem Reachable.shownValue?_of_derived
    (hs : Reachable Schema.IsRead s) (hrecord : s.grid.rows[row]? = some record)
    {before after : List Column} (hcolumns : s.grid.columns = before ++ c :: after)
    (hderives : s.viewer.Derives c) :
    s.shownValue? row c.fieldId = some (c.formulaOn (s.viewer.derive before record)) := by
  have hc : c ∈ s.grid.columns := by
    rw [hcolumns]
    exact List.mem_append_cons_self
  have hafter : ∀ d ∈ after, d.fieldId ≠ c.fieldId := by
    have hids := hs.consistent.grid.distinct
    rw [Grid.fieldIds, hcolumns, List.map_append, List.map_cons, List.nodup_middle] at hids
    intro d hd hid
    exact (List.nodup_cons.1 hids).1 (List.mem_append_right _ (List.mem_map.2 ⟨d, hd, hid⟩))
  rw [hs.shownValue?_eq hrecord hc, hcolumns,
    Viewer.get?_derive_of_derives hs.faithful hafter hderives, Option.getD_some]

/-! ## Edits that are made -/

theorem Reachable.edit
    {admits : Schema → Prop} (hs : Reachable admits s) (e : StructuralEdit) :
    Reachable admits (s.step (.edit e)).store := by
  have hadmitted : (Operation.edit e).Admitted admits := trivial
  exact hs.step hadmitted

theorem registry_commit (description : String) (t : Transition) (s : Store) :
    (s.commit description t).store.registry = s.registry := by
  unfold commit
  split
  · rfl
  · cases t.change.rows <;> cases t.change.columns <;> rfl

/-- An edit leaves it to the types of the fields which columns are computed. -/
theorem derives_edit (s : Store) (e : StructuralEdit) (c : Column) :
    (s.step (.edit e)).store.viewer.Derives c ↔ s.viewer.Derives c := by
  have hregistry := registry_commit e.description (e.apply s.policy s.grid) s
  simp only [Viewer.Derives, Viewer.behavior, viewer, step, hregistry]

theorem grid_of_made
    {e : StructuralEdit} (hreply : (s.step (.edit e)).reply = .flag true) :
    (e.apply s.policy s.grid).change.isNone = false ∧
      (s.step (.edit e)).store.grid = (e.apply s.policy s.grid).grid := by
  rw [reply_edit] at hreply
  have hchange : (e.apply s.policy s.grid).change.isNone = false := by simpa using hreply
  exact ⟨hchange, (s.commit_of_changed hchange e.description).2.grid⟩

/-! ## Merged columns -/

/-- Whatever operations a session makes, a column that another is merged into shows
the texts of what both have shown, side by side and trimmed.  Of another that is
computed, only what the record itself holds goes into the text; and a column that
is computed goes on showing what its formula gives. -/
theorem merged_column_shows_joined_texts
    (hs : Reachable Schema.IsRead s)
    (hreply : (s.step (.edit .mergeColumns)).reply = .flag true) :
    let after := (s.step (.edit .mergeColumns)).store
    let lower := (mergeTargets s.grid.columns.length s.grid.selectedPositions).1
    ∃ kept dropped,
      s.grid.Merged kept dropped after.grid ∧
      ∀ row record, s.grid.rows[row]? = some record →
        ∃ a b,
          s.shownValue? row kept.fieldId = some a ∧
          s.shownValue? row dropped.fieldId = some b ∧
          let second :=
            if s.viewer.Derives dropped then record.textAt dropped.fieldId else b.displayText
          let merged := record.fold kept.fieldId dropped.fieldId
          after.shownValue? row kept.fieldId = some
            (if s.viewer.Derives kept then
              kept.formulaOn (after.viewer.derive (s.grid.columns.take lower) merged)
            else .str (Text.trim (a.displayText ++ " " ++ second))) := by
  intro after lower
  have hafter : Reachable Schema.IsRead after := hs.edit .mergeColumns
  obtain ⟨hchange, hgrid⟩ := grid_of_made hreply
  rw [StructuralEdit.apply] at hchange hgrid
  obtain ⟨kept, dropped, hmerged⟩ := Grid.merged_of_committed hchange
  obtain ⟨rest, hcolumns⟩ := hmerged.columns_mergeColumns hchange
  rw [← hgrid] at hmerged hcolumns
  refine ⟨kept, dropped, hmerged, fun row record hrecord => ?_⟩
  have hkept : kept ∈ s.grid.columns := List.mem_of_getElem? hmerged.keptAt
  have hdropped : dropped ∈ s.grid.columns := List.mem_of_getElem? hmerged.droppedAt
  have ha := hs.shownValue?_eq hrecord hkept
  have hb := hs.shownValue?_eq hrecord hdropped
  refine ⟨_, _, ha, hb, ?_⟩
  -- the merged column is the kept one, under another name
  set renamed := { kept with fieldName := kept.fieldName ++ "/" ++ dropped.fieldName }
  have hsame : after.viewer.Derives renamed ↔ s.viewer.Derives kept := s.derives_edit _ renamed
  change after.shownValue? row renamed.fieldId = _
  by_cases hderives : s.viewer.Derives kept
  · rw [if_pos hderives,
      hafter.shownValue?_of_derived (hmerged.record hrecord) hcolumns (hsame.2 hderives)]
    rfl
  · have hrenamed : renamed ∈ after.grid.columns := by
      rw [hcolumns]
      exact List.mem_append_cons_self
    rw [if_neg hderives,
      hafter.shownValue?_of_stored (hmerged.record hrecord) hrenamed (mt hsame.1 hderives),
      ← hs.textAt_eq_displayText hrecord hkept hderives ha]
    simp only [renamed, Row.fold, Keyed.get?_insert, if_true, Option.getD_some]
    by_cases hcomputed : s.viewer.Derives dropped
    · rw [if_pos hcomputed]
    · rw [if_neg hcomputed, ← hs.textAt_eq_displayText hrecord hdropped hcomputed hb]

/-- A code and a note, with a formula between them that reads the code. -/
theorem merged_column_shows_joined_texts_in_marked :
    let before := (ofSchema .builtin .marked).run
      [.edit (.addColumn "note"), .updateCell 0 "code" (.str "x"),
        .updateCell 0 "note" (.str "N"), .toggleColumn "code", .toggleColumn "note"]
    let after := (before.step (.edit .mergeColumns)).store
    Reachable Schema.IsRead before ∧
      (before.step (.edit .mergeColumns)).reply = .flag true ∧
      (∃ a b,
        before.shownValue? 0 "code" = some a ∧ before.shownValue? 0 "note" = some b ∧
        after.shownValue? 0 "code" =
          some (.str (Text.trim (a.displayText ++ " " ++ b.displayText)))) ∧
      (after.shownValue? 0 "code").bind Json.asStr? = some "x N" ∧
      (after.shownValue? 0 "loud").bind Json.asStr? = some "x N!" := by
  intro before after
  have hs : Reachable Schema.IsRead before := reachable_marked (by simp [Operation.Admitted])
  have hreply : (before.step (.edit .mergeColumns)).reply = .flag true := rfl
  obtain ⟨kept, dropped, hmerged, hrows⟩ := merged_column_shows_joined_texts hs hreply
  obtain rfl : Column.plain "code" "code" "text" = kept := Option.some.inj hmerged.keptAt
  obtain rfl : Column.plain "note" "note" "text" = dropped := Option.some.inj hmerged.droppedAt
  obtain ⟨a, b, ha, hb, hshown⟩ := hrows 0 _ rfl
  exact ⟨hs, hreply, ⟨a, b, ha, hb, hshown⟩, by decide +kernel, by decide +kernel⟩

/-- What a formula has shown does not go into the text. -/
theorem merged_column_leaves_formula_out :
    let before := (ofSchema .builtin .marked).run [.updateCell 0 "code" (.str "x")]
    let merged := before.step (.edit .mergeColumns)
    Reachable Schema.IsRead before ∧ merged.reply = .flag true ∧
      (before.shownValue? 0 "code").bind Json.asStr? = some "x" ∧
      (before.shownValue? 0 "loud").bind Json.asStr? = some "x!" ∧
      (merged.store.shownValue? 0 "code").bind Json.asStr? = some "x" ∧
      Text.trim ("x" ++ " " ++ "x!") ≠ "x" := by
  intro before merged
  have hs : Reachable Schema.IsRead before := reachable_marked (by simp [Operation.Admitted])
  exact ⟨hs, rfl, by decide +kernel⟩

/-! ## Copied columns -/

/-- The copy of a column has in a record what the column has: its formula, if it
has one, does not read the column itself, and else the record holds a value to
copy, or nothing that could be taken for one. -/
def CopiesInto (s : Store) (source : Column) (id : String) (record : Row) : Prop :=
  if s.viewer.Derives source then source.fieldId ∉ source.formulaFields
  else (Keyed.get? record source.fieldId).isSome = true ∨ (Keyed.get? record id).isNone = true

instance (s : Store) (source : Column) (id : String) (record : Row) :
    Decidable (s.CopiesInto source id record) :=
  inferInstanceAs (Decidable (if s.viewer.Derives source then _ else _))

/-- A formula that does not read its own column gives the same right behind it. -/
theorem Reachable.shownValue?_copy_of_derived
    (hs : Reachable Schema.IsRead s) (hrecord : s.grid.rows[row]? = some record)
    {before after : List Column} {id : String}
    (hcolumns : s.grid.columns = before ++ c :: c.copiedAs id :: after)
    (hderives : s.viewer.Derives c) (hself : c.fieldId ∉ c.formulaFields) :
    s.shownValue? row id = s.shownValue? row c.fieldId := by
  have hcolumns' : s.grid.columns = (before ++ [c]) ++ c.copiedAs id :: after := by
    rw [hcolumns, List.append_assoc, List.singleton_append]
  set derived := s.viewer.derive before record
  have hbehind : s.viewer.derive (before ++ [c]) record =
      Keyed.insert c.fieldId (c.formulaOn derived) derived := by
    rw [Viewer.derive_append, Viewer.derive_cons,
      Viewer.deriveColumn_of_derives hs.faithful hderives]
    rfl
  have hsame : c.formulaOn (s.viewer.derive (before ++ [c]) record) = c.formulaOn derived := by
    refine Column.formulaOn_congr fun field hfield => ?_
    rw [hbehind, Keyed.get?_insert, if_neg]
    rintro rfl
    exact hself hfield
  calc s.shownValue? row id
      = some ((c.copiedAs id).formulaOn (s.viewer.derive (before ++ [c]) record)) :=
        hs.shownValue?_of_derived (c := c.copiedAs id) hrecord hcolumns' hderives
    _ = some (c.formulaOn derived) := congrArg some hsame
    _ = s.shownValue? row c.fieldId := (hs.shownValue?_of_derived hrecord hcolumns hderives).symm

/-- A copy that is not computed shows what the record holds in the column, or else what
it has held under the identifier of the copy. -/
theorem Reachable.shownValue?_copy_of_stored
    {after : Store} (hafter : Reachable Schema.IsRead after) {source : Column} {id : String}
    (hcopied : s.grid.Copied source id after.grid) (hrecord : s.grid.rows[row]? = some record)
    (hstored : ¬after.viewer.Derives source) :
    after.shownValue? row source.fieldId =
        some ((Keyed.get? record source.fieldId).getD .null) ∧
      after.shownValue? row id =
        some (((Keyed.get? record source.fieldId).or (Keyed.get? record id)).getD .null) := by
  have hcolumns := hcopied.columns
  have hrecord' := hcopied.record hrecord
  have hsource : source ∈ after.grid.columns := by
    rw [hcolumns]
    exact List.mem_append_cons_self
  have hcopy : source.copiedAs id ∈ after.grid.columns := by
    rw [hcolumns]
    exact List.mem_append_right _ (List.mem_cons_of_mem _ (List.mem_cons_self ..))
  constructor
  · rw [hafter.shownValue?_of_stored hrecord' hsource hstored, Row.get?_copied,
      if_neg hcopied.id_ne]
  · have hvalue := hafter.shownValue?_of_stored hrecord' hcopy hstored
    rwa [Column.copiedAs, Row.get?_copied, if_pos rfl] at hvalue

/-- Whatever operations a session makes, a copy of a column shows the same as
the column, in every record that it can be copied in: null where the record has
nothing under a column that is not computed. -/
theorem copied_column_shows_same
    (hs : Reachable Schema.IsRead s)
    (hreply : (s.step (.edit .splitColumn)).reply = .flag true) :
    let after := (s.step (.edit .splitColumn)).store
    ∃ source id,
      s.grid.Copied source id after.grid ∧
      ∀ row record, s.grid.rows[row]? = some record → s.CopiesInto source id record →
        ∃ value,
          after.shownValue? row source.fieldId = some value ∧
          after.shownValue? row id = some value ∧
          (¬s.viewer.Derives source →
            value = (Keyed.get? record source.fieldId).getD .null) := by
  intro after
  have hafter : Reachable Schema.IsRead after := hs.edit .splitColumn
  obtain ⟨hchange, hgrid⟩ := grid_of_made hreply
  rw [StructuralEdit.apply] at hchange hgrid
  obtain ⟨source, id, hcopied⟩ := Grid.copied_of_committed hchange
  rw [← hgrid] at hcopied
  refine ⟨source, id, hcopied, fun row record hrecord hcopies => ?_⟩
  have hcolumns := hcopied.columns
  have hrecord' := hcopied.record hrecord
  have hsame : after.viewer.Derives source ↔ s.viewer.Derives source := s.derives_edit _ source
  by_cases hderives : s.viewer.Derives source
  · rw [CopiesInto, if_pos hderives] at hcopies
    have hsource : source ∈ after.grid.columns := by
      rw [hcolumns]
      exact List.mem_append_cons_self
    have hvalue := hafter.shownValue?_eq hrecord' hsource
    refine ⟨_, hvalue, ?_, fun hstored => absurd hderives hstored⟩
    rw [← hvalue]
    exact hafter.shownValue?_copy_of_derived hrecord' hcolumns (hsame.2 hderives) hcopies
  · rw [CopiesInto, if_neg hderives] at hcopies
    obtain ⟨hvalue, hcopy⟩ :=
      hafter.shownValue?_copy_of_stored hcopied hrecord (mt hsame.1 hderives)
    refine ⟨_, hvalue, ?_, fun _ => rfl⟩
    rw [hcopy]
    rcases hcopies with hheld | hfree
    · rw [Option.or_of_isSome hheld]
    · rw [Option.isNone_iff_eq_none.1 hfree, Option.or_none]

/-- A copy of a formula column goes on computing. -/
theorem copied_column_shows_same_in_marked :
    let before := (ofSchema .builtin .marked).run [.updateCell 0 "code" (.str "x")]
    let after := (before.step (.edit .splitColumn)).store
    Reachable Schema.IsRead before ∧
      (before.step (.edit .splitColumn)).reply = .flag true ∧
      after.grid.fieldIds = ["code", "loud", "loud_copy"] ∧
      after.shownValue? 0 "loud_copy" = after.shownValue? 0 "loud" ∧
      (after.shownValue? 0 "loud_copy").bind Json.asStr? = some "x!" := by
  intro before after
  have hs : Reachable Schema.IsRead before := reachable_marked (by simp [Operation.Admitted])
  have hreply : (before.step (.edit .splitColumn)).reply = .flag true := rfl
  obtain ⟨source, id, hcopied, hrows⟩ := copied_column_shows_same hs hreply
  obtain rfl := Option.some.inj hcopied.sourceAt
  obtain rfl : "loud_copy" = id := by
    have hlast := congrArg (fun columns => columns[2]?.map Column.fieldId) hcopied.columns
    exact Option.some.inj hlast
  obtain ⟨value, hsource, hcopy, -⟩ := hrows 0 _ rfl (by decide +kernel)
  exact ⟨hs, hreply, rfl, hcopy.trans hsource.symm, by decide +kernel⟩

/-- A formula that reads its own column finds nothing there, while its copy finds
what it has given. -/
theorem copied_formula_reads_source :
    let before := ofSchema .builtin .echoed
    let copied := before.step (.edit .splitColumn)
    Reachable Schema.IsRead before ∧ copied.reply = .flag true ∧
      copied.store.grid.fieldIds = ["echo", "echo_copy"] ∧
      (copied.store.shownValue? 0 "echo_copy").bind Json.asStr? = some "!" ∧
      copied.store.shownValue? 0 "echo_copy" ≠ copied.store.shownValue? 0 "echo" := by
  intro before copied
  have hcopy : (copied.store.shownValue? 0 "echo_copy").bind Json.asStr? = some "!" := by
    decide +kernel
  have hsource : (copied.store.shownValue? 0 "echo").bind Json.asStr? = none := by
    decide +kernel
  refine ⟨.start .builtin Schema.echoed_isRead, rfl, rfl, hcopy, fun hsame => ?_⟩
  rw [hsame, hsource] at hcopy
  cases hcopy

/-- A split clears nothing: what a record has held under the identifier of the copy shows
there, while the column shows nothing. -/
theorem copied_column_shows_leftover :
    let before := ofSchema .builtin .leftover
    let copied := before.step (.edit .splitColumn)
    Reachable Schema.IsRead before ∧ copied.reply = .flag true ∧
      copied.store.grid.fieldIds = ["a", "a_copy"] ∧
      ¬before.CopiesInto (.plain "a" "a" "text") "a_copy" [("a_copy", .str "old")] ∧
      (copied.store.shownValue? 0 "a_copy").bind Json.asStr? = some "old" ∧
      copied.store.shownValue? 0 "a_copy" ≠ copied.store.shownValue? 0 "a" := by
  intro before copied
  have hcopy : (copied.store.shownValue? 0 "a_copy").bind Json.asStr? = some "old" := by
    decide +kernel
  have hsource : (copied.store.shownValue? 0 "a").bind Json.asStr? = none := by
    decide +kernel
  refine ⟨.start .builtin Schema.leftover_isRead, rfl, rfl, by decide +kernel, hcopy,
    fun hsame => ?_⟩
  rw [hsame, hsource] at hcopy
  cases hcopy

end Store
end RecordGrid
