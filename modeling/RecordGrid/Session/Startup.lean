import RecordGrid.Session.Config
import RecordGrid.Session.Documents
import RecordGrid.Text.Escaped

/-!
# Loading the documents that a configuration names

The documents are read from their files and then given to the store of the host.
The store changes as the load goes on, and nothing takes a change back: what a
load has done by the time it fails stays done.
-/

namespace RecordGrid

inductive LoadError where
  | unreadable
  | schema (e : SchemaError)
  | malformed (path : String)
  | poisoned
deriving DecidableEq, Repr

namespace LoadError

def ofDocument (path : String) : DocumentError → LoadError
  | .schema e => .schema e
  | .malformed => .malformed path

/-- The message, up to what the system or the JSON reader says of the cause. -/
def message : LoadError → String
  | .unreadable => "I/O error"
  | .schema e => e.message
  | .malformed path => "Invalid JSON in " ++ Text.escaped path
  | .poisoned => "Grid state lock poisoned"

end LoadError

/-- The store that a host keeps behind a lock, and the records that it has
published.  The lock is poisoned once a holder of it has failed. -/
structure Host where
  store : Store
  poisoned : Bool := false
  published : List (List Row) := []

/-- A load: it may fail, and the host is then as the load has left it. -/
abbrev Loading := ExceptT LoadError (StateM Host)

namespace Host

def perform (op : Store.Operation) (h : Host) : Host :=
  let taken := h.store.step op
  { h with store := taken.store, published := h.published ++ taken.published }

end Host

namespace Loading

def lock : Loading Unit := do
  if (← get).poisoned then throw .poisoned

def perform (op : Store.Operation) : Loading Unit := modify (Host.perform op)

/-- What a document asks for, where there is one. -/
def supply (operation : α → Store.Operation) : Option α → Loading Unit
  | none => pure ()
  | some a => perform (operation a)

/-- Reads a document where there is a path to it, `contents` being what files hold. -/
def readNamed (contents : String → Option String)
    (read : Option String → Except DocumentError (Option α)) :
    Option String → Except LoadError (Option α)
  | none => .ok none
  | some path =>
      match contents path with
      | none => .error .unreadable
      | some text => (read (some text)).mapError (.ofDocument path)

def schemaOf (contents : String → Option String) (c : Config) :
    Except LoadError (Option Schema) :=
  readNamed contents Documents.readSchema c.schemaPath

def rowsOf (contents : String → Option String) (c : Config) :
    Except LoadError (Option (List Row)) :=
  readNamed contents (Documents.readText .whole (Json.asList? Json.asRow?)) c.dataPath

def optionsOf (contents : String → Option String) (c : Config) :
    Except LoadError (Option (List (String × List Choice))) :=
  readNamed contents (Documents.readText Documents.optionsScope Json.asOptionLists?)
    c.lookupOptionsPath

/-- Loads the schema, the records and the options that a configuration names. -/
def documents (contents : String → Option String) (c : Config) : Loading Unit := do
  let schema ← ofExcept (schemaOf contents c)
  let rows ← ofExcept (rowsOf contents c)
  let options ← ofExcept (optionsOf contents c)
  lock
  supply .loadSchema schema
  supply .supplyOptions options
  supply .supplyRows rows

end Loading

/-- What becomes of a host when it loads its documents. -/
def Host.loadDocuments (contents : String → Option String) (c : Config) (h : Host) :
    Except LoadError Unit × Host :=
  (Loading.documents contents c).run h

end RecordGrid
