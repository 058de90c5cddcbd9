import RecordGrid.Session.Command
import RecordGrid.View.Writing

/-!
# Answers to commands

A session is a store that is worked on by one command after the other.  Every
command is answered: with the whole grid after a change, with what was asked
for, or with the reason why it is refused.  A session makes no lookups of its
own, so those that an edit starts are given up once the edit is answered.  A command
that ends in a fault (`Store.answerFault?`) ends the session with it.
-/

namespace RecordGrid

def Store.snapshot (s : Store) : Json :=
  .obj
    [("columns", .arr (s.grid.columns.map Column.toJson)), ("rows", Row.listToJson s.grid.rows),
      ("header", s.header.toJson), ("page", s.pageInfo.toJson),
      ("selectedRows", .arr (s.grid.selectedRows.map Json.ofNat)),
      ("selectedColumns", Json.strings s.grid.selectedCols),
      ("canUndo", .bool s.history.canUndo), ("canRedo", .bool s.history.canRedo),
      ("pendingLookups", Json.ofNat s.lookups.pending)]

inductive Response where
  | ok (result : Json)
  | failed (message : String)

def Response.toJson : Response → Json
  | .ok result => .obj [("ok", .bool true), ("result", result)]
  | .failed message => .obj [("ok", .bool false), ("error", .str message)]

/-- The line that tells of records that have changed. -/
def rowsChanged (rows : List Row) : Json :=
  .obj [("event", .str "rows_changed"), ("rows", Row.listToJson rows)]

/-- The response to a command, the store after it, and the records that were
published meanwhile. -/
structure Answer where
  response : Response
  store : Store
  published : List (List Row) := []

namespace Answer

/-- The answer to a question. -/
def told (s : Store) (result : Json) : Answer := ⟨.ok result, s, []⟩

def refused (s : Store) (message : String) : Answer := ⟨.failed message, s, []⟩

/-- The answer with the grid after a step. -/
def ofStep (r : Store.Step) : Answer := ⟨.ok r.store.snapshot, r.store, r.published⟩

end Answer

namespace Store

def abandonAll (requests : List Request) (s : Store) : Store :=
  requests.foldl (fun s r => s.abandonLookup r.ticket) s

/-- Answers an edit of a cell as outside an asynchronous runtime: none of its lookups
is started, and the answer has the grid as it is before they are given up.  Inside a
runtime they would be started, counted in the answer and kept pending. -/
def answerEdit (r : Step) : Answer :=
  match r.reply with
  | .requests (.ok requests) =>
      ⟨.ok (.obj [("snapshot", r.store.snapshot), ("lookupsStarted", .int 0)]),
        r.store.abandonAll requests, r.published⟩
  | .requests (.error e) => ⟨.failed e.message, r.store, r.published⟩
  | _ => Answer.ofStep r

/-- Whether a text is an expression, and if not, why. -/
def expressionCheck (source : String) : Json :=
  match Expr.parse source with
  | .ok _ => .obj [("valid", .bool true)]
  | .error e => .obj [("valid", .bool false), ("error", .str e.report)]

def noCell (row : Nat) (fieldId : String) : String :=
  "No cell at row " ++ toString row ++ " field '" ++ fieldId ++ "'"

def answer (c : Command) (s : Store) : Answer :=
  match c with
  | .loadSchema document =>
      match Schema.ofJson document with
      | .ok schema => Answer.ofStep (s.loadSchema schema)
      | .error e => Answer.refused s e.message
  | .updateCell row fieldId raw => answerEdit (s.updateCell row fieldId raw)
  | .perform op => Answer.ofStep (s.step op)
  | .snapshot => Answer.told s s.snapshot
  | .pageView => Answer.told s s.pageView.toJson
  | .cellView row fieldId =>
      match s.cellView? row fieldId with
      | some view => Answer.told s view.toJson
      | none => Answer.refused s (noCell row fieldId)
  | .exportRows => Answer.told s (Row.listToJson s.materializedRows)
  | .checkExpression source => Answer.told s (expressionCheck source)

/-- The fault that ends an answer, if one does: that of the operation, or of the pager
that is shown. -/
def answerFault? (c : Command) (s : Store) : Option IndexFault :=
  match c with
  | .loadSchema document =>
      (Schema.ofJson document).toOption.bind fun schema => (s.loadSchema schema).store.pageFault?
  | .updateCell row fieldId raw =>
      match (s.updateCell row fieldId raw).reply with
      | .requests (.error _) => none
      | _ => s.pageFault?
  | .perform op => (s.fault? op).or (s.step op).store.pageFault?
  | .snapshot | .pageView => s.pageFault?
  | .cellView .. | .exportRows | .checkExpression _ => none

/-- Answers a line.  The lock of the store is taken to be sound: there is no reply here
for one that is poisoned, which only `Host.loadDocuments` knows of. -/
def answerLine (line : String) (s : Store) : Answer :=
  match Command.ofLine? line with
  | some c => s.answer c
  | none => Answer.refused s "Invalid command"

end Store

end RecordGrid
