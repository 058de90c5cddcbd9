import Mathlib.Data.List.Forall2
import RecordGrid.Lookup.Request

/-!
# The requests an edit sends

Every column that is bound to the edited field, and that names an endpoint,
gets one request.  The requests come in the order of the columns.
-/

namespace RecordGrid

theorem Column.isEnrichedFrom_iff {c : Column} {source : String} :
    c.isEnrichedFrom source = true ↔
      c.bindField = some source ∧ ∃ endpoint, c.lookupEndpoint? = some endpoint := by
  rw [isEnrichedFrom, Bool.and_eq_true, Option.isSome_iff_exists, beq_iff_eq, and_comm]

/-- The request asks for the value of a bound column, by what was entered into
its source. -/
structure Request.LooksUp (source : Target) (value : Json) (c : Column) (r : Request) :
    Prop where
  target : r.ticket.target = ⟨source.row, c.fieldId⟩
  endpoint : c.lookupEndpoint? = some r.endpoint
  sourceField : r.sourceField = source.fieldId
  query : r.query = value.queryText

namespace Lookups

variable {row : Nat} {source : String} {value : Json} {c : Column}

theorem plan_cons_of_unbound
    (hunbound : c.isEnrichedFrom source = false) (rest : List Column) (l : Lookups) :
    plan row source value (c :: rest) l = plan row source value rest l := by
  have hnone : c.lookupEndpoint?.filter (fun _ => c.isEnrichedFrom source) = none := by
    simp [hunbound]
  rw [plan, hnone]

theorem plan_cons_of_bound
    (hbound : c.isEnrichedFrom source = true) {endpoint : String}
    (hendpoint : c.lookupEndpoint? = some endpoint) (rest : List Column) (l : Lookups) :
    plan row source value (c :: rest) l =
      (⟨(l.issue ⟨row, c.fieldId⟩).1, endpoint, source, value.queryText⟩ ::
          (plan row source value rest (l.advance ⟨row, c.fieldId⟩)).1,
        (plan row source value rest (l.advance ⟨row, c.fieldId⟩)).2) := by
  have hsome : c.lookupEndpoint?.filter (fun _ => c.isEnrichedFrom source) = some endpoint := by
    simp [hbound, hendpoint]
  rw [plan, hsome]
  rfl

theorem looksUp_plan
    (row : Nat) (source : String) (value : Json) (columns : List Column) (l : Lookups) :
    List.Forall₂ (Request.LooksUp ⟨row, source⟩ value)
      (columns.filter fun c => c.isEnrichedFrom source)
      (plan row source value columns l).1 := by
  induction columns generalizing l with
  | nil => exact .nil
  | cons c rest ih =>
      cases hbound : c.isEnrichedFrom source with
      | false =>
          rw [plan_cons_of_unbound hbound, List.filter_cons_of_neg (by simp [hbound])]
          exact ih l
      | true =>
          obtain ⟨-, endpoint, hendpoint⟩ := Column.isEnrichedFrom_iff.1 hbound
          rw [plan_cons_of_bound hbound hendpoint, List.filter_cons_of_pos (by simpa using hbound)]
          exact .cons ⟨rfl, hendpoint, rfl, rfl⟩ (ih _)

end Lookups
end RecordGrid
