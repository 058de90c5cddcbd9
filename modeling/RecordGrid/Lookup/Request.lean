import RecordGrid.Json.Cell
import RecordGrid.Lookup.Ticket
import RecordGrid.Schema.Column

/-!
# Lookups an edit starts
-/

namespace RecordGrid

structure Request where
  ticket : Ticket
  endpoint : String
  /-- The field whose edit starts the lookup. -/
  sourceField : String
  /-- The text that is asked for. -/
  query : String
deriving DecidableEq, Repr

def Request.toJson (r : Request) : Json :=
  .obj
    [("ticket", r.ticket.toJson), ("endpoint", .str r.endpoint),
      ("source_field", .str r.sourceField), ("query_value", .str r.query)]

namespace Lookups

/-- The lookups that an edit starts, one for every column that is bound to the
field, in the order of the columns. -/
def plan (row : Nat) (sourceField : String) (value : Json) :
    List Column → Lookups → List Request × Lookups
  | [], l => ([], l)
  | c :: rest, l =>
      match (c.lookupEndpoint?).filter fun _ => c.isEnrichedFrom sourceField with
      | none => plan row sourceField value rest l
      | some endpoint =>
          let (ticket, issued) := l.issue ⟨row, c.fieldId⟩
          let (requests, planned) := plan row sourceField value rest issued
          (⟨ticket, endpoint, sourceField, value.queryText⟩ :: requests, planned)

end Lookups

end RecordGrid
