import RecordGrid.Store.Basic

/-!
# Operations on a store

Everything a session can do to its store.  An operation that changes records
publishes them all to whoever listens; one that is refused, or has nothing to
do, changes nothing and publishes nothing.  Where `Store.fault?` finds a fault, the
operation ends in it, and `Store.step` is of no account.
-/

namespace RecordGrid

namespace Store

inductive Operation where
  | loadSchema (schema : Schema)
  | supplyRows (rows : List Row)
  | supplyOptions (options : List (String × List Choice))
  | setRole (role : Option String)
  | updateCell (row : Nat) (fieldId : String) (raw : Json)
  | applyLookup (ticket : Ticket) (value : Json)
  | answerLookup (ticket : Ticket) (body : Json)
  | abandonLookup (ticket : Ticket)
  | edit (e : StructuralEdit)
  | toggleRow (index : Nat)
  | toggleColumn (fieldId : String)
  | clearSelection
  | setPage (page : Nat)
  | nextPage
  | previousPage
  | undo
  | redo

/-- What an operation tells whoever asked for it. -/
inductive Reply where
  | done
  | flag (b : Bool)
  | page (n : Nat)
  | requests (result : Except EditError (List Request))

/-- The outcome of an operation: the reply, the store after it, and the records
it has published, as often as it has. -/
structure Step where
  reply : Reply
  store : Store
  published : List (List Row) := []

def publish (s : Store) (reply : Reply) : Step := ⟨reply, s, [s.grid.rows]⟩

def quiet (s : Store) (reply : Reply) : Step := ⟨reply, s, []⟩

/-! ## What the host supplies -/

def loadSchema (schema : Schema) (s : Store) : Step := publish (s.install schema) .done

/-- Seeds the records anew; without any, the schema says with which. -/
def supplyRows (rows : List Row) (s : Store) : Step :=
  publish
    { s with
      externalRows := rows
      grid := (s.grid.reseed s.policy (s.schema.seedRows rows)).grid
      history := s.history.clear
      lookups := s.lookups.invalidateAll }
    .done

/-- A role without a name is none. -/
def setRole (role : Option String) (s : Store) : Store :=
  { s with role := role.filter fun r => !r.isEmpty }

/-! ## Cells and lookups -/

/-- The value that an edit of a cell stores, and the one that is there. -/
def enter (s : Store) (row : Nat) (fieldId : String) (raw : Json) :
    Except EditError (Json × Option Json) :=
  match s.grid.rows[row]?, s.grid.column? fieldId with
  | none, _ => .error (.rowOutOfRange row)
  | some _, none => .error (.unknownField fieldId)
  | some record, some c =>
      match s.viewer.refusal? c (s.viewer.derive s.grid.columns record) with
      | some e => .error e
      | none =>
          match (s.viewer.behavior c).coerce (s.viewer.context c) raw with
          | .error e => .error e
          | .ok value => .ok (value, Keyed.get? record fieldId)

/-- Writes a value into a cell and starts the lookups for it. -/
def write (s : Store) (row : Nat) (fieldId : String) (value : Json) : Step :=
  let (requests, lookups) :=
    (s.lookups.supersede ⟨row, fieldId⟩).plan row fieldId value s.grid.columns
  publish
    { s with
      history := s.history.record ("Edit " ++ fieldId) s.grid
      grid := s.grid.setCell row fieldId value
      lookups }
    (.requests (.ok requests))

/-- An edit of a cell.  It changes nothing where the value is there already. -/
def updateCell (row : Nat) (fieldId : String) (raw : Json) (s : Store) : Step :=
  match s.enter row fieldId raw with
  | .error e => s.quiet (.requests (.error e))
  | .ok (value, stored) =>
      if stored == some value then s.quiet (.requests (.ok []))
      else s.write row fieldId value

/-- Puts the value that a lookup has found into its cell, while the ticket is
current. -/
def applyLookup (ticket : Ticket) (value : Json) (s : Store) : Step :=
  if s.lookups.isCurrent ticket then
    let s := { s with lookups := s.lookups.retire ticket }
    let t := ticket.target
    if t.row < s.grid.rowCount ∧ s.grid.hasColumn t.fieldId then
      publish { s with grid := s.grid.setCell t.row t.fieldId value } (.flag true)
    else s.quiet (.flag false)
  else s.quiet (.flag false)

def abandonLookup (ticket : Ticket) (s : Store) : Store :=
  { s with lookups := s.lookups.retire ticket }

/-- Takes the answer to a lookup; one without a value gives the lookup up. -/
def answerLookup (ticket : Ticket) (body : Json) (s : Store) : Step :=
  match body.lookupAnswer? with
  | some value => s.applyLookup ticket value
  | none => (s.abandonLookup ticket).quiet (.flag false)

/-! ## Structure -/

/-- Takes over a grid that an edit has changed. -/
def commit (description : String) (t : Transition) (s : Store) : Step :=
  if t.change.isNone then s.quiet (.flag false)
  else
    let lookups := if t.change.renumbered then s.lookups.invalidateAll else s.lookups
    let s :=
      { s with grid := t.grid, history := s.history.record description s.grid, lookups }
    let s :=
      if t.change.columns then
        refreshColumns { s with lookups := s.lookups.retain s.grid.hasColumn }
      else s
    if t.change.rows then s.publish (.flag true) else s.quiet (.flag true)

/-! ## Pages -/

def setPage (page : Nat) (s : Store) : Step :=
  let page := s.schema.paging.clampPage s.grid.rowCount page
  quiet { s with grid := { s.grid with page } } (.page page)

/-! ## History -/

/-- Returns to a grid of the history. -/
def restore (g : Grid) (history : History Grid) (s : Store) : Step :=
  let restored := { s with grid := g, history, lookups := s.lookups.invalidateAll }
  publish (if g.columns != s.grid.columns then refreshColumns restored else restored) (.flag true)

def travel (step : Option (Grid × History Grid)) (s : Store) : Step :=
  match step with
  | some (g, history) => s.restore g history
  | none => s.quiet (.flag false)

/-- Takes over a grid with another selection, where there is one. -/
def select (g : Option Grid) (s : Store) : Step :=
  match g with
  | some g => quiet { s with grid := g } (.flag true)
  | none => s.quiet (.flag false)

def step (op : Operation) (s : Store) : Step :=
  match op with
  | .loadSchema schema => s.loadSchema schema
  | .supplyRows rows => s.supplyRows rows
  | .supplyOptions options => quiet { s with supplied := options } .done
  | .setRole role => (s.setRole role).quiet .done
  | .updateCell row fieldId raw => s.updateCell row fieldId raw
  | .applyLookup ticket value => s.applyLookup ticket value
  | .answerLookup ticket body => s.answerLookup ticket body
  | .abandonLookup ticket => (s.abandonLookup ticket).quiet .done
  | .edit e => s.commit e.description (e.apply s.policy s.grid)
  | .toggleRow index => s.select (s.grid.toggleRow index)
  | .toggleColumn fieldId => s.select (s.grid.toggleColumn fieldId)
  | .clearSelection => quiet { s with grid := s.grid.clearSelection } .done
  | .setPage page => s.setPage page
  | .nextPage => s.setPage (s.grid.page + 1)
  | .previousPage => s.setPage (s.grid.page - 1)
  | .undo => s.travel (s.history.undo s.grid)
  | .redo => s.travel (s.history.redo s.grid)

/-- The fault that ends an operation, if one does: all that may turn the page counts the
pages. -/
def fault? (op : Operation) (s : Store) : Option IndexFault :=
  match op with
  | .supplyRows rows => s.schema.paging.fault? (s.schema.seedRows rows).length
  | .edit e => e.fault? s.policy s.grid
  | .setPage _ | .nextPage | .previousPage => s.pageFault?
  | _ => none

def run (ops : List Operation) (s : Store) : Store :=
  ops.foldl (fun s op => (s.step op).store) s

def published : List Operation → Store → List (List Row)
  | [], _ => []
  | op :: rest, s => (s.step op).published ++ published rest (s.step op).store

end Store

end RecordGrid
