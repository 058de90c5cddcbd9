import RecordGrid.Session.Command

/-!
# Documents at the start

The schema, the records and the options that a session starts with.  They are
read before any of them takes effect, so one that cannot be read leaves the
store as it was.
-/

namespace RecordGrid

/-- The texts of the documents there are. -/
structure Documents where
  schema : Option String := none
  data : Option String := none
  options : Option String := none

inductive DocumentError where
  | schema (e : SchemaError)
  | malformed
deriving DecidableEq, Repr

namespace Documents

/-- Reads the text of a document, where there is one. -/
def readText (scope : Json.Scope) (read : Json → Option α) :
    Option String → Except DocumentError (Option α)
  | none => .ok none
  | some text =>
      match (Json.parsePart? scope text).bind read with
      | none => .error .malformed
      | some a => .ok (some a)

def readSchema : Option String → Except DocumentError (Option Schema)
  | none => .ok none
  | some text =>
      match Schema.ofText text with
      | .error e => .error (.schema e)
      | .ok schema => .ok (some schema)

/-- Of an option only its label and its value are asked for. -/
def optionsScope : Json.Scope := .members (.items (.record Choice.keys))

/-- What the documents ask of the store: the schema, then the options, then the
records.  They are read in another order, which decides between two faults. -/
def operations (d : Documents) : Except DocumentError (List Store.Operation) := do
  let schema ← readSchema d.schema
  let rows ← readText .whole (Json.asList? Json.asRow?) d.data
  let options ← readText optionsScope Json.asOptionLists? d.options
  return (schema.map .loadSchema).toList ++ (options.map .supplyOptions).toList ++
    (rows.map .supplyRows).toList

end Documents

def Store.forRole (role : Option String) : Store := (Store.ofSchema .builtin {}).setRole role

end RecordGrid
