import Mathlib.Data.List.Forall2
import Mathlib.Data.List.Nodup
import RecordGrid.Proofs.Store.Consistent

/-!
# One record, however it is read

A record can be looked at cell by cell, as a row, on the page that shows, or
among all records as they are handed out with their formulas filled in.  Each
of these is computed on its own; they tell the same of a record, and the page
shows the records that belong on it.
-/

namespace RecordGrid

/-! ## Lists of options and of positions -/

namespace Grid

theorem column?_of_mem
    {g : Grid} {c : Column} (hdistinct : g.fieldIds.Nodup) (hc : c ∈ g.columns) :
    g.column? c.fieldId = some c := by
  have hsome : (g.column? c.fieldId).isSome = true :=
    List.find?_isSome.2 ⟨c, hc, beq_self_eq_true _⟩
  obtain ⟨d, hd⟩ := Option.isSome_iff_exists.1 hsome
  have hsame : d.fieldId = c.fieldId := by simpa using List.find?_some hd
  rw [hd, List.inj_on_of_nodup_map hdistinct (List.mem_of_find?_eq_some hd) hc hsame]

end Grid

namespace Schema

/-- A document with codes, and a formula that puts a mark behind each. -/
def markedDocument : Json :=
  .obj
    [("columns", .arr
        [.obj [("field_id", .str "code"), ("field_type", .str "text")],
          .obj [("field_id", .str "loud"), ("field_type", .str "formula"),
            ("formula", .str "code + '!'")]]),
      ("pagination", .obj [("enabled", .bool true), ("rows_per_page", .int 1)])]

def marked : Schema where
  columns :=
    [.plain "code" "code" "text",
      { Column.plain "loud" "loud" "formula" with formula := some "code + '!'" }]
  paging := { enabled := true, rowsPerPage := some 1 }

theorem marked_isRead : marked.IsRead := ⟨markedDocument, rfl⟩

end Schema

namespace Store

variable {s : Store}

theorem cellView?_of_mem
    {index : Nat} {record : Row} {c : Column} (hdistinct : s.grid.fieldIds.Nodup)
    (hrecord : s.grid.rows[index]? = some record) (hc : c ∈ s.grid.columns) :
    s.cellView? index c.fieldId =
      some (s.viewer.cell c (s.viewer.derive s.grid.columns record)) := by
  simp only [cellView?, hrecord, Grid.column?_of_mem hdistinct hc]

theorem reachable_marked
    {ops : List Operation} (hops : ∀ op ∈ ops, op.Admitted Schema.IsRead) :
    Reachable Schema.IsRead ((ofSchema .builtin .marked).run ops) :=
  (Reachable.start .builtin Schema.marked_isRead).run hops

end Store
end RecordGrid
