import RecordGrid.Proofs.Store.Reachable
import RecordGrid.Session.Protocol

/-!
# Lines that change nothing

A line is refused for one of four reasons, and each of them is found before
anything is touched: it is no command, its schema cannot be read, its edit is not
taken, or there is no cell to show.  Refused lines and questions leave the store
alone and publish nothing, so a session goes on as if they had not been sent.
-/

namespace RecordGrid

namespace Response

/-- What the response says under `ok`. -/
def accepted : Response → Bool
  | .ok _ => true
  | .failed _ => false

theorem ok_toJson (r : Response) : r.toJson.get? "ok" = some (.bool r.accepted) := by
  cases r <;> rfl

end Response

/-- The commands that only ask. -/
def Command.asks : Command → Bool
  | .snapshot | .pageView | .cellView .. | .exportRows | .checkExpression _ => true
  | .loadSchema _ | .updateCell .. | .perform _ => false

namespace Store

variable {s : Store} {line message : String}

/-! ## Refusals -/

/-- Why a line is refused, with the message that says so. -/
inductive Refusal (s : Store) (line : String) : String → Prop where
  | unread (hline : Command.ofLine? line = none) : Refusal s line "Invalid command"
  | schema {document : Json} {e : SchemaError}
      (hline : Command.ofLine? line = some (.loadSchema document))
      (hschema : Schema.ofJson document = .error e) : Refusal s line e.message
  | edit {row : Nat} {fieldId : String} {raw : Json} {e : EditError}
      (hline : Command.ofLine? line = some (.updateCell row fieldId raw))
      (hedit : s.enter row fieldId raw = .error e) : Refusal s line e.message
  | cell {row : Nat} {fieldId : String}
      (hline : Command.ofLine? line = some (.cellView row fieldId))
      (hcell : s.cellView? row fieldId = none) : Refusal s line (noCell row fieldId)

theorem updateCell_of_error
    {row : Nat} {fieldId : String} {raw : Json} {e : EditError}
    (hedit : s.enter row fieldId raw = .error e) :
    s.updateCell row fieldId raw = s.quiet (.requests (.error e)) := by
  simp only [updateCell, hedit]

theorem Refusal.answerLine (h : s.Refusal line message) :
    s.answerLine line = Answer.refused s message := by
  cases h with
  | unread hline => simp only [Store.answerLine, hline]
  | schema hline hschema => simp only [Store.answerLine, hline, answer, hschema]
  | edit hline hedit =>
      simp only [Store.answerLine, hline, answer, updateCell_of_error hedit]
      rfl
  | cell hline hcell => simp only [Store.answerLine, hline, answer, hcell]

end Store

end RecordGrid
