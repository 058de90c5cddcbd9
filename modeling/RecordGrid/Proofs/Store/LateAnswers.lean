import RecordGrid.Proofs.Grid.Merged
import RecordGrid.Proofs.Store.Issued

/-!
# Answers that come after the cell was written

A value that is entered into a cell stays there, however late the answers to
older lookups for the cell come, as long as it is another value than the one
before: an entry that finds its value there already leaves the lookups for the
cell under way.  What a merge of columns joins stays too, where nothing was
under way for the cell: a merge leaves the lookups for the kept column as they
are.
-/

namespace RecordGrid
namespace Store

variable {s : Store} {t : Ticket} {ops : List Operation}

/-! ## Cells that are left to answers -/

/-- All that the operations of a run write into a cell are answers to some of
the lookups. -/
def LeftTo (older : Ticket → Prop) (cell : Target) (s : Store) (ops : List Operation) : Prop :=
  ∀ before op after, ops = before ++ op :: after →
    (∃ t, older t ∧ op.Answers t) ∨
      ((s.run before).step op).store.grid.cell? cell = (s.run before).grid.cell? cell

theorem leftTo_cons
    {older : Ticket → Prop} {cell : Target} {op : Operation} {rest : List Operation}
    (hleft : LeftTo older cell s (op :: rest)) :
    ((∃ t, older t ∧ op.Answers t) ∨ (s.step op).store.grid.cell? cell = s.grid.cell? cell) ∧
      LeftTo older cell (s.step op).store rest := by
  refine ⟨hleft [] op rest rfl, ?_⟩
  intro before later after hsplit
  exact hleft (op :: before) later after (by rw [hsplit, List.cons_append])

/-- The lookups of some tickets no longer count. -/
def Stale (older : Ticket → Prop) (s : Store) : Prop :=
  ∀ t, older t → s.lookups.Knows t ∧ s.lookups.isCurrent t = false

theorem Stale.run
    {older : Ticket → Prop} (hstale : s.Stale older) (hs : s.Anchored) (ops : List Operation) :
    (s.run ops).Stale older := by
  intro t ht
  obtain ⟨hknown, hcurrent⟩ := hstale t ht
  exact ⟨hknown.extend (carries_run hs hknown ops).known,
    not_current_run hs hknown hcurrent ops⟩

theorem Stale.refuses
    {older : Ticket → Prop} (hstale : s.Stale older) (hs : s.Anchored) (ops : List Operation)
    (ht : older t) :
    (s.run ops).Refuses t :=
  refuses_of_not_current (hstale.run hs ops t ht).2

theorem cell?_of_leftTo
    {older : Ticket → Prop} {cell : Target} (hstale : s.Stale older) (hs : s.Anchored)
    (hleft : LeftTo older cell s ops) :
    (s.run ops).grid.cell? cell = s.grid.cell? cell := by
  -- the tickets are stale in every store on the way
  induction ops generalizing s with
  | nil => rfl
  | cons op rest ih =>
      obtain ⟨hfirst, hrest⟩ := leftTo_cons hleft
      have hkept : (s.step op).store.grid.cell? cell = s.grid.cell? cell := by
        rcases hfirst with ⟨t, ht, hanswers⟩ | hkept
        · rw [store_of_answers hanswers (hstale t ht).2]
        · exact hkept
      have hlater := ih (hstale.run hs [op]) (hs.step op) hrest
      exact hlater.trans hkept

/-! ## Entries -/

/-- An edit that is accepted finds its value there already, or writes it. -/
theorem updateCell_of_accepted
    {row : Nat} {fieldId : String} {raw : Json} {requests : List Request}
    (hreply : (s.updateCell row fieldId raw).reply = .requests (.ok requests)) :
    ∃ value,
      s.enter row fieldId raw = .ok (value, s.grid.cell? ⟨row, fieldId⟩) ∧
      s.grid.HasCell ⟨row, fieldId⟩ ∧
      s.updateCell row fieldId raw =
        if s.grid.cell? ⟨row, fieldId⟩ == some value then s.quiet (.requests (.ok []))
        else s.write row fieldId value := by
  unfold updateCell at hreply ⊢
  cases henter : s.enter row fieldId raw with
  | error e =>
      simp only [henter, quiet_reply] at hreply
      cases hreply
  | ok entered =>
      obtain ⟨value, stored⟩ := entered
      obtain ⟨hthere, rfl⟩ := enter_eq_ok henter
      exact ⟨value, rfl, hthere, rfl⟩

/-- After a cell is written, the lookups for it that were under way no longer
count. -/
theorem stale_write
    {older : Ticket → Prop} (hs : s.Anchored) {row : Nat} {fieldId : String}
    (hthere : s.grid.HasCell ⟨row, fieldId⟩) (value : Json)
    (holder : ∀ t, older t → s.lookups.Knows t ∧ t.target = ⟨row, fieldId⟩) :
    (s.write row fieldId value).store.Stale older := by
  intro t ht
  obtain ⟨hknown, htarget⟩ := holder t ht
  have hcarries := carries_write hs hknown hthere value
  refine ⟨hknown.extend hcarries.known, ?_⟩
  rw [Bool.eq_false_iff]
  intro hcurrent
  exact (hcarries.current.1 hcurrent).2 (.inr htarget)

/-- Whatever has been done to a store, once an edit of a cell is accepted, the
answers to older lookups for the cell are refused for ever, and the value that
was entered stays until something other than such an answer is written into the
cell.  The one exception is an edit that finds its value there already: it
leaves the store as it is, with the lookups that are under way. -/
theorem entry_outlives_older_lookups
    (registry : Registry) (schema : Schema) (ops : List Operation)
    {row : Nat} {fieldId : String} {raw : Json} {requests : List Request}
    (hreply : (((ofSchema registry schema).run ops).step (.updateCell row fieldId raw)).reply =
      .requests (.ok requests)) :
    let before := (ofSchema registry schema).run ops
    let after := (before.step (.updateCell row fieldId raw)).store
    let cell : Target := ⟨row, fieldId⟩
    let older := fun t => t ∈ (ofSchema registry schema).issued ops ∧ t.target = cell
    ∃ value,
      before.enter row fieldId raw = .ok (value, before.grid.cell? cell) ∧
      ((before.grid.cell? cell == some value) = true ∧ after = before ∨
        (before.grid.cell? cell == some value) = false ∧
          after.grid.cell? cell = some value ∧
          ∀ later,
            (∀ t, older t → (after.run later).Refuses t) ∧
            (LeftTo older cell after later →
              (after.run later).grid.cell? cell = some value)) := by
  intro before after cell older
  have hanchored : before.Anchored := anchored_run registry schema ops
  have hafter : after.Anchored := hanchored.step _
  have holder : ∀ t, older t → before.lookups.Knows t ∧ t.target = cell :=
    fun t ht => ⟨(handedOut_run registry schema ops).known t ht.1, ht.2⟩
  obtain ⟨value, hentered, hthere, hupdate⟩ := updateCell_of_accepted hreply
  refine ⟨value, hentered, ?_⟩
  cases hsame : before.grid.cell? cell == some value with
  | true =>
      rw [if_pos hsame] at hupdate
      have hunchanged : after = before := congrArg Step.store hupdate
      exact .inl ⟨rfl, hunchanged⟩
  | false =>
      rw [if_neg (by rw [hsame]; exact Bool.false_ne_true)] at hupdate
      have hwritten : after = (before.write row fieldId value).store :=
        congrArg Step.store hupdate
      have hvalue : after.grid.cell? cell = some value := by
        rw [hwritten]
        exact (Grid.writtenAt_setCell cell value hthere.1).written
      have hstale : after.Stale older := by
        rw [hwritten]
        exact stale_write hanchored hthere value holder
      refine .inr ⟨rfl, hvalue, fun later => ⟨fun t ht => hstale.refuses hafter later ht, ?_⟩⟩
      intro hleft
      rw [cell?_of_leftTo hstale hafter hleft, hvalue]

/-- A name entered while its lookup is under way. -/
theorem entry_outlives_older_lookup_in_sample :
    let before := (ofSchema .builtin .sample).run [.updateCell 0 "code" (.str "x")]
    let after := (before.step (.updateCell 0 "name" (.str "N"))).store
    (before.step (.updateCell 0 "name" (.str "N"))).reply = .requests (.ok []) ∧
      after.grid.cell? ⟨0, "name"⟩ = some (.str "N") ∧
      (after.run [.edit .addRow]).Refuses ⟨⟨0, "name"⟩, 1, 1⟩ := by
  intro before after
  have hreply : (before.step (.updateCell 0 "name" (.str "N"))).reply = .requests (.ok []) := rfl
  obtain ⟨value, hentered, hsame | ⟨-, hvalue, hlater⟩⟩ :=
    entry_outlives_older_lookups .builtin .sample [.updateCell 0 "code" (.str "x")] hreply
  · have hempty : before.grid.cell? ⟨0, "name"⟩ = none := rfl
    rw [hempty] at hsame
    cases hsame.1
  · have hvalueIs : value = .str "N" := by
      have hboth : Except.ok (ε := EditError) (value, none) = .ok (.str "N", none) :=
        hentered.symm.trans rfl
      exact (Prod.mk.inj (Except.ok.inj hboth)).1
    subst hvalueIs
    refine ⟨hreply, hvalue, (hlater _).1 _ ⟨?_, rfl⟩⟩
    exact List.mem_cons_self ..

/-- A name that is entered again, unchanged, does not keep the answer out that
was asked for before. -/
theorem same_entry_overwritten_by_older_lookup :
    let asked : List Operation :=
      [.updateCell 0 "name" (.str "N"), .updateCell 0 "code" (.str "x")]
    let entered := ((ofSchema .builtin .sample).run asked).step (.updateCell 0 "name" (.str "N"))
    let answered := entered.store.step (.applyLookup ⟨⟨0, "name"⟩, 1, 1⟩ (.str "X"))
    (ofSchema .builtin .sample).issued asked = [⟨⟨0, "name"⟩, 1, 1⟩] ∧
      entered.reply = .requests (.ok []) ∧
      entered.store.grid.cell? ⟨0, "name"⟩ = some (.str "N") ∧
      answered.reply = .flag true ∧
      answered.store.grid.cell? ⟨0, "name"⟩ = some (.str "X") :=
  ⟨rfl, rfl, rfl, rfl, rfl⟩

/-! ## Merges of columns -/

/-- A merge of columns that is made drops the tickets for columns that are
gone, and leaves the others. -/
theorem merged_step (hreply : (s.step (.edit .mergeColumns)).reply = .flag true) :
    let after := (s.step (.edit .mergeColumns)).store
    after.lookups = s.lookups.retain after.grid.hasColumn ∧
      ∃ kept dropped, s.grid.Merged kept dropped after.grid := by
  intro after
  rw [reply_edit] at hreply
  have hchange : s.grid.mergeColumns.change.isNone = false := by
    simpa [StructuralEdit.apply] using hreply
  have hcommitted : s.Committed _ s.grid.mergeColumns after :=
    (s.commit_of_changed hchange _).2
  have hmark : s.grid.mergeColumns.change = StructuralEdit.mergeColumns.mark :=
    StructuralEdit.change_of_committed (p := s.policy) (e := .mergeColumns) hchange
  have hlookups := hcommitted.lookups
  rw [hmark] at hlookups
  rw [hcommitted.grid]
  exact ⟨hlookups, Grid.merged_of_committed hchange⟩

/-- Whatever has been done to a store, a merge of columns that is made joins two
values in the kept column of every record.  It changes nothing about the older
lookups for such a cell: the answers that were to be refused are refused for
ever, so where none was to be written, the joined value stays until something
other than such an answer is written into the cell. -/
theorem joined_value_outlives_settled_lookups
    (registry : Registry) (schema : Schema) (ops : List Operation)
    (hreply : (((ofSchema registry schema).run ops).step (.edit .mergeColumns)).reply =
      .flag true) :
    let before := (ofSchema registry schema).run ops
    let after := (before.step (.edit .mergeColumns)).store
    ∃ kept dropped,
      before.grid.Merged kept dropped after.grid ∧
      ∀ row record, before.grid.rows[row]? = some record →
        let cell : Target := ⟨row, kept.fieldId⟩
        let older := fun t => t ∈ (ofSchema registry schema).issued ops ∧ t.target = cell
        let joined := record.joined kept.fieldId dropped.fieldId
        after.grid.cell? cell = some joined ∧
        (∀ t, older t → after.accepts t = before.accepts t) ∧
        ∀ later,
          (∀ t, older t → before.accepts t = false → (after.run later).Refuses t) ∧
          ((∀ t, older t → before.accepts t = false) →
            LeftTo older cell after later →
              (after.run later).grid.cell? cell = some joined) := by
  intro before after
  have hanchored : before.Anchored := anchored_run registry schema ops
  have hafter : after.Anchored := hanchored.step _
  obtain ⟨hlookups, kept, dropped, hmerged⟩ := merged_step hreply
  have hextends : before.lookups.Extends after.lookups := by
    rw [hlookups]
    exact Lookups.extends_retain _ _
  refine ⟨kept, dropped, hmerged, ?_⟩
  intro row record hrecord cell older joined
  have hjoined : after.grid.cell? cell = some joined := hmerged.cell?_kept hrecord
  have hsame : ∀ t, older t → after.accepts t = before.accepts t := by
    rintro t ⟨-, htarget⟩
    rw [hafter.accepts_eq, hanchored.accepts_eq, Bool.eq_iff_iff]
    have hretained := Lookups.isCurrent_retain (l := before.lookups) (t := t) after.grid.hasColumn
    rw [← hlookups, htarget] at hretained
    rw [hretained]
    exact and_iff_left hmerged.stays
  have hstale : after.Stale fun t => older t ∧ before.accepts t = false := by
    rintro t ⟨ht, hrefused⟩
    have hknown : before.lookups.Knows t := (handedOut_run registry schema ops).known t ht.1
    rw [← hafter.accepts_eq, hsame t ht]
    exact ⟨hknown.extend hextends, hrefused⟩
  refine ⟨hjoined, hsame, fun later => ⟨?_, ?_⟩⟩
  · intro t ht hrefused
    exact hstale.refuses hafter later ⟨ht, hrefused⟩
  · intro hnone hleft
    have holder : after.Stale older := fun t ht => hstale t ⟨ht, hnone t ht⟩
    rw [cell?_of_leftTo holder hafter hleft, hjoined]

/-- Names and notes that are merged after the lookup for the name is done. -/
theorem joined_value_outlives_settled_lookup_in_sample :
    let ops : List Operation :=
      [.edit (.addColumn "note"), .updateCell 0 "note" (.str "N"),
        .updateCell 0 "code" (.str "x"), .applyLookup ⟨⟨0, "name"⟩, 1, 1⟩ (.str "X")]
    let before := (ofSchema .builtin .sample).run ops
    let after := (before.step (.edit .mergeColumns)).store
    (before.step (.edit .mergeColumns)).reply = .flag true ∧
      (ofSchema .builtin .sample).issued ops = [⟨⟨0, "name"⟩, 1, 1⟩] ∧
      before.accepts ⟨⟨0, "name"⟩, 1, 1⟩ = false ∧
      after.grid.cell? ⟨0, "name"⟩ = some (.str "X N") ∧
      (after.run [.edit .addRow]).Refuses ⟨⟨0, "name"⟩, 1, 1⟩ := by
  intro ops before after
  have hreply : (before.step (.edit .mergeColumns)).reply = .flag true := rfl
  have hissued : (ofSchema .builtin .sample).issued ops = [⟨⟨0, "name"⟩, 1, 1⟩] := rfl
  have hrefused : before.accepts ⟨⟨0, "name"⟩, 1, 1⟩ = false := rfl
  obtain ⟨kept, dropped, hmerged, hcells⟩ :=
    joined_value_outlives_settled_lookups .builtin .sample ops hreply
  have hkept : kept.fieldId = "name" := by
    have hsome := congrArg (Option.map (·.fieldId)) hmerged.keptAt
    exact (Option.some.inj hsome).symm
  obtain ⟨-, -, hlater⟩ := hcells 0 _ rfl
  refine ⟨hreply, hissued, hrefused, rfl, (hlater _).1 _ ⟨?_, ?_⟩ hrefused⟩
  · rw [hissued]
    exact List.mem_cons_self ..
  · rw [hkept]

/-- A merge does not keep the answer out that the kept column waits for. -/
theorem joined_value_overwritten_by_older_lookup :
    let asked : List Operation :=
      [.edit (.addColumn "note"), .updateCell 0 "note" (.str "N"),
        .updateCell 0 "code" (.str "x")]
    let merged := ((ofSchema .builtin .sample).run asked).step (.edit .mergeColumns)
    let answered := merged.store.step (.applyLookup ⟨⟨0, "name"⟩, 1, 1⟩ (.str "X"))
    (ofSchema .builtin .sample).issued asked = [⟨⟨0, "name"⟩, 1, 1⟩] ∧
      merged.reply = .flag true ∧
      merged.store.grid.cell? ⟨0, "name"⟩ = some (.str "N") ∧
      answered.reply = .flag true ∧
      answered.store.grid.cell? ⟨0, "name"⟩ = some (.str "X") :=
  ⟨rfl, rfl, rfl, rfl, rfl⟩

end Store
end RecordGrid
