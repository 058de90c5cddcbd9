import RecordGrid.Proofs.Expr.Blanks
import RecordGrid.Proofs.Expr.Reads
import RecordGrid.Proofs.Keyed
import RecordGrid.Proofs.View.Expressions
import RecordGrid.View.Cell

/-!
# Records with their formulas filled in

Formulas are filled in one by one, each on what those before it have left.  As
long as no formula reads a column that is filled in only after it, nothing that
it has read changes any more, so in the end every formula has its value on the
record as a whole, and filling them in again changes nothing.
-/

namespace RecordGrid

/-! ## Formulas without what is kept of them -/

namespace Column

/-- The expression of the formula, where it is not blank and can be read. -/
def formulaExpr? (c : Column) : Option Expr :=
  c.formulaSource?.bind fun source => (Expr.parse source).toOption

/-- What is stored for the formula on a record: null where it is blank, cannot be
read, or faults. -/
def formulaOn (c : Column) (row : Row) : Json :=
  match c.formulaExpr?.map (Expr.eval row) with
  | some (.ok value) => value.toJson
  | _ => .null

/-- The fields that the formula mentions. -/
def formulaFields (c : Column) : List String := c.formulaExpr?.elim [] Expr.referencedFields

theorem formulaOn_congr {c : Column} {row other : Row}
    (hagree : ∀ id ∈ c.formulaFields, Keyed.get? row id = Keyed.get? other id) :
    c.formulaOn row = c.formulaOn other := by
  unfold formulaOn
  unfold formulaFields at hagree
  cases hexpr : c.formulaExpr? with
  | none => rfl
  | some e =>
      rw [hexpr] at hagree
      have hsame : e.eval row = e.eval other := Expr.eval_congr hagree
      rw [Option.map_some, Option.map_some, hsame]

end Column

namespace Expressions

variable {e : Expressions}

/-- Whether a text is kept or not, it is read as it stands. -/
theorem Faithful.parsed_compile (he : e.Faithful) (text : String) :
    (e.compile text).parsed = Expr.parse text := by
  unfold compile
  cases hkept : e.get? text with
  | none => rfl
  | some entry =>
      have hentry := he entry (List.mem_of_find?_eq_some hkept)
      have hname : entry.source = Text.trim text := by
        simpa using List.find?_some hkept
      rw [Option.getD_some, hentry, Compiled.ofText, hname, Expr.parse_trim]

theorem Faithful.toJson_formulaValue (he : e.Faithful) (c : Column) (row : Row) :
    (e.formulaValue c row).toJson = c.formulaOn row := by
  unfold formulaValue Column.formulaOn Column.formulaExpr? Column.formulaSource?
  cases hformula : c.formula with
  | none => rfl
  | some text =>
      cases hblank : Text.allBlank text with
      | true =>
          have hnone : Column.content? (some text) = none := by
            rw [Column.content?, Option.map_some, Option.filter_some, Text.trim_isEmpty, hblank]
            rfl
          simp only [hnone, hblank, if_true]
          rfl
      | false =>
          have hsource : Column.content? (some text) = some (Text.trim text) :=
            Column.content?_eq_some_iff.2 ⟨text, rfl, hblank, rfl⟩
          simp only [hsource, hblank, Option.bind_some, Expr.parse_trim, Bool.false_eq_true,
            if_false, Compiled.formulaValue, Compiled.eval, he.parsed_compile]
          cases Expr.parse text with
          | error fault => rfl
          | ok parsed =>
              simp only [Except.toOption, Option.map_some]
              cases parsed.eval row <;> rfl

end Expressions

namespace Viewer

variable {v : Viewer} {c d : Column} {columns rest : List Column} {row : Row}

/-- The values of the column are computed, by the type of its field. -/
def Derives (v : Viewer) (c : Column) : Prop := (v.behavior c).kind = .derived

instance (v : Viewer) (c : Column) : Decidable (v.Derives c) :=
  inferInstanceAs (Decidable ((v.behavior c).kind = .derived))

/-- Both are formula columns, and the formula of the first reads the second. -/
def Needs (v : Viewer) (c d : Column) : Prop :=
  v.Derives c ∧ v.Derives d ∧ d.fieldId ∈ c.formulaFields

instance (v : Viewer) (c d : Column) : Decidable (v.Needs c d) :=
  inferInstanceAs (Decidable (_ ∧ _ ∧ _))

/-- No formula reads a formula column at its own position or a later one. -/
def InOrder (v : Viewer) (columns : List Column) : Prop :=
  (∀ c ∈ columns, ¬v.Needs c c) ∧ columns.Pairwise fun c d => ¬v.Needs c d

instance (v : Viewer) (columns : List Column) : Decidable (v.InOrder columns) :=
  inferInstanceAs (Decidable (_ ∧ _))

theorem inOrder_cons (hordered : v.InOrder (c :: rest)) :
    (∀ d ∈ c :: rest, ¬v.Needs c d) ∧ v.InOrder rest := by
  obtain ⟨hown, hlater⟩ := hordered
  obtain ⟨hself, hrest⟩ := List.forall_mem_cons.1 hown
  obtain ⟨hbehind, hpairs⟩ := List.pairwise_cons.1 hlater
  exact ⟨List.forall_mem_cons.2 ⟨hself, hbehind⟩, hrest, hpairs⟩

theorem deriveColumn_of_derives
    (hv : v.expressions.Faithful) (hc : v.Derives c) (row : Row) :
    v.deriveColumn row c = Keyed.insert c.fieldId (c.formulaOn row) row := by
  have hkind : (v.behavior c).kind = .derived := hc
  rw [deriveColumn, if_pos hkind, hv.toJson_formulaValue]

theorem deriveColumn_of_not_derives (hc : ¬v.Derives c) (row : Row) :
    v.deriveColumn row c = row := if_neg hc

theorem derive_cons (v : Viewer) (c : Column) (rest : List Column) (row : Row) :
    v.derive (c :: rest) row = v.derive rest (v.deriveColumn row c) := rfl

theorem derive_append (v : Viewer) (before after : List Column) (row : Row) :
    v.derive (before ++ after) row = v.derive after (v.derive before row) := List.foldl_append

/-- Nothing is put under a key that is no formula column's id. -/
theorem get?_derive_of_ne {key : String}
    (hkey : ∀ c ∈ columns, v.Derives c → c.fieldId ≠ key) (row : Row) :
    Keyed.get? (v.derive columns row) key = Keyed.get? row key := by
  induction columns generalizing row with
  | nil => rfl
  | cons c rest ih =>
      obtain ⟨hfirst, hrest⟩ := List.forall_mem_cons.1 hkey
      rw [derive_cons, ih hrest]
      unfold deriveColumn
      split
      · rename_i hc
        rw [Keyed.get?_insert, if_neg (Ne.symm (hfirst hc))]
      · rfl

/-- A formula sees the record as the columns before it have left it, and what it
gives is what is found in the end. -/
theorem get?_derive_of_derives
    (hv : v.expressions.Faithful) {before after : List Column}
    (hafter : ∀ d ∈ after, d.fieldId ≠ c.fieldId) (hc : v.Derives c) (row : Row) :
    Keyed.get? (v.derive (before ++ c :: after) row) c.fieldId =
      some (c.formulaOn (v.derive before row)) := by
  rw [derive_append, derive_cons, get?_derive_of_ne (fun d hd _ => hafter d hd),
    deriveColumn_of_derives hv hc, Keyed.get?_insert, if_pos rfl]

/-- A value that is where it would be put stays so while others are put in. -/
theorem insert_derive_of_ne {key : String} {value : Json}
    (hkey : ∀ c ∈ columns, v.Derives c → c.fieldId ≠ key)
    (hrow : Keyed.insert key value row = row) :
    Keyed.insert key value (v.derive columns row) = v.derive columns row := by
  induction columns generalizing row with
  | nil => exact hrow
  | cons c rest ih =>
      obtain ⟨hfirst, hrest⟩ := List.forall_mem_cons.1 hkey
      rw [derive_cons]
      refine ih hrest ?_
      unfold deriveColumn
      split
      · rename_i hc
        rw [Keyed.insert_comm (Ne.symm (hfirst hc)), hrow]
      · exact hrow

/-- Every formula column holds the value of its formula on the record as it is in
the end, and at the place where it would be put. -/
theorem insert_derive
    (hv : v.expressions.Faithful) (hdistinct : (columns.map (·.fieldId)).Nodup)
    (hordered : v.InOrder columns) (row : Row) (hc : c ∈ columns) (hderives : v.Derives c) :
    let derived := v.derive columns row
    Keyed.insert c.fieldId (c.formulaOn derived) derived = derived := by
  induction columns generalizing row with
  | nil => cases hc
  | cons first rest ih =>
      obtain ⟨hnew, hrest⟩ := List.nodup_cons.1 hdistinct
      obtain ⟨hfirst, hlater⟩ := inOrder_cons hordered
      rcases List.mem_cons.1 hc with rfl | hc
      · -- what the formula reads is there before it is filled in
        have hsame : c.formulaOn (v.derive (c :: rest) row) = c.formulaOn row := by
          refine Column.formulaOn_congr fun id hid => get?_derive_of_ne ?_ row
          rintro d hd hd' rfl
          exact hfirst d hd ⟨hderives, hd', hid⟩
        have hkey : ∀ d ∈ rest, v.Derives d → d.fieldId ≠ c.fieldId :=
          fun d hd _ hid => hnew (List.mem_map.2 ⟨d, hd, hid⟩)
        intro derived
        rw [hsame, show derived = v.derive rest (v.deriveColumn row c) from rfl]
        refine insert_derive_of_ne hkey ?_
        rw [deriveColumn_of_derives hv hderives, Keyed.insert_insert]
      · exact ih hrest hlater (v.deriveColumn row first) hc

/-- With formulas that read only what is before them, the record that is filled in
holds the value of every formula on that same record; it is filled in already,
and nothing else of it has changed. -/
theorem derived_record_settled
    (hv : v.expressions.Faithful) (hdistinct : (columns.map (·.fieldId)).Nodup)
    (hordered : v.InOrder columns) (row : Row) :
    let derived := v.derive columns row
    (∀ c ∈ columns, v.Derives c →
      Keyed.get? derived c.fieldId = some (c.formulaOn derived)) ∧
    v.derive columns derived = derived ∧
    ∀ key, (∀ c ∈ columns, v.Derives c → c.fieldId ≠ key) →
      Keyed.get? derived key = Keyed.get? row key := by
  intro derived
  have hplaced : ∀ c ∈ columns, v.Derives c →
      Keyed.insert c.fieldId (c.formulaOn derived) derived = derived :=
    fun c hc hderives => insert_derive hv hdistinct hordered row hc hderives
  refine ⟨?_, ?_, fun key hkey => get?_derive_of_ne hkey row⟩
  · intro c hc hderives
    have hfound := Keyed.get?_insert c.fieldId (c.formulaOn derived) derived c.fieldId
    rwa [hplaced c hc hderives, if_pos rfl] at hfound
  · have hkept : ∀ c ∈ columns, v.deriveColumn derived c = derived := by
      intro c hc
      by_cases hderives : v.Derives c
      · rw [deriveColumn_of_derives hv hderives, hplaced c hc hderives]
      · exact deriveColumn_of_not_derives hderives derived
    refine List.foldlRecOn columns v.deriveColumn (motive := (· = derived)) rfl ?_
    rintro _ rfl c hc
    exact hkept c hc

/-- Marks on a code, one formula on the result of another, one that cannot be
read, and one that is blank. -/
def marked : List Column :=
  [.plain "code" "code" "text",
    { Column.plain "once" "once" "formula" with formula := some "code + '!'" },
    { Column.plain "twice" "twice" "formula" with formula := some " once + '!' " },
    { Column.plain "broken" "broken" "formula" with formula := some "twice +" },
    { Column.plain "blank" "blank" "formula" with formula := some " " }]

theorem derived_record_settled_marked :
    let v : Viewer := ⟨.builtin, .forColumns marked, [], none⟩
    let row : Row := [("code", .str "x"), ("note", .int 5)]
    let derived := v.derive marked row
    v.expressions.Faithful ∧ (marked.map (·.fieldId)).Nodup ∧ v.InOrder marked ∧
      derived.map (·.1) = ["blank", "broken", "code", "note", "once", "twice"] ∧
      (Keyed.get? derived "twice").bind Json.asStr? = some "x!!" ∧
      v.derive marked derived = derived ∧ Keyed.get? derived "note" = some (.int 5) := by
  intro v row derived
  have hfaithful : v.expressions.Faithful := Expressions.faithful_forColumns marked
  have hdistinct : (marked.map (·.fieldId)).Nodup := by decide
  have hordered : v.InOrder marked := by decide +kernel
  obtain ⟨-, hagain, hothers⟩ := derived_record_settled hfaithful hdistinct hordered row
  exact ⟨hfaithful, hdistinct, hordered, by decide +kernel, by decide +kernel, hagain,
    hothers "note" (by decide)⟩

end Viewer
end RecordGrid
