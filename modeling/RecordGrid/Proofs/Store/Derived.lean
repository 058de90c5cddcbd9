import RecordGrid.Proofs.Store.Undo
import RecordGrid.Proofs.View.Expressions

/-!
# Headers and expressions after every run

A store lays its header out anew, and compiles what is new among its
expressions, only where an operation says that it has changed columns.  After
every run they are nevertheless those of the columns that are there, with
nothing left of columns that were there before.
-/

namespace RecordGrid
namespace Store

/-- Whatever has been done to a store, its header is the description of the
schema laid out over the columns that it has now.  Its expressions are one
entry for each text that these columns use, which is the text compiled afresh,
and no other entry, so that this is also what is found for the text. -/
theorem header_and_expressions_of_run
    (registry : Registry) (schema : Schema) (ops : List Operation) :
    let s := (ofSchema registry schema).run ops
    let used := Expressions.UsedBy s.grid.columns
    s.header = HeaderLayout.ofColumns s.schema.headerStructure s.grid.columns ∧
      (s.expressions.compiled.map (·.source)).Nodup ∧
      (∀ entry, entry ∈ s.expressions.compiled ↔
        entry = Compiled.ofText entry.source ∧ used entry.source) ∧
      ∀ text entry, s.expressions.get? text = some entry ↔
        entry = Compiled.ofText (Text.trim text) ∧ used (Text.trim text) := by
  intro s used
  have hcoherent : s.Coherent := (Coherent.ofSchema registry schema).run ops
  have hexpressions : s.expressions = Expressions.forColumns s.grid.columns :=
    hcoherent.expressions
  refine ⟨hcoherent.header, ?_, ?_, ?_⟩
  · rw [hexpressions, Expressions.sources_forColumns]
    exact Expressions.nodup_distinct _
  · intro entry
    rw [hexpressions]
    exact Expressions.mem_forColumns_iff
  · intro text entry
    rw [hexpressions]
    exact Expressions.get?_forColumns_eq_some_iff

/-- A formula that is used twice, with blanks around it once, and copied. -/
example :
    let total : Column :=
      { Column.plain "total" "Total" "formula" with
        formula := some " 1 + 1 ", visibilityCondition := some "1 + 1" }
    let s := (ofSchema .builtin { columns := [total] }).run [.edit .splitColumn]
    s.grid.fieldIds = ["total", "total_copy"] ∧
      s.expressions.compiled.map (·.source) = ["1 + 1"] := by
  decide

end Store
end RecordGrid
