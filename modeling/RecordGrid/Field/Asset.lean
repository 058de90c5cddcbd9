import RecordGrid.Json.Record
import RecordGrid.Text.Blank
import RecordGrid.Text.Case

/-!
# Picked files

A file or an image as a picker hands it over, and the accept lists that a
column may set for it.
-/

namespace RecordGrid

structure Asset where
  name : String
  sizeBytes : Nat
  mimeType : Option String := none
  /-- What the file holds, usually as a data URL. -/
  data : Option String := none
deriving DecidableEq, Repr

namespace Asset

def ofJson? (j : Json) : Option Asset := do
  let r ← Json.record? ["name", "size_bytes", "mime_type", "data"] j
  let name ← Json.required r "name" Json.asStr?
  let sizeBytes ← Json.required r "size_bytes" Json.asCount?
  let mimeType ← Json.optional r "mime_type" Json.asStr?
  let data ← Json.optional r "data" Json.asStr?
  some { name, sizeBytes, mimeType, data }

/-- The stored value, its members in the order of their keys. -/
def toJson (a : Asset) : Json :=
  .obj
    ((a.data.map fun s => ("data", Json.str s)).toList ++
      (a.mimeType.map fun s => ("mime_type", Json.str s)).toList ++
      [("name", .str a.name), ("size_bytes", .int a.sizeBytes)])

/-- One entry of an accept list, in lower case. -/
inductive Accept where
  | nothing
  | ending (text : List Char)
  | family (name : List Char)
  | exactly (mimeType : List Char)
deriving DecidableEq, Repr

/-- Reads `.ext`, `type/*` or a MIME type. -/
def Accept.ofText (entry : String) : Accept :=
  match (Text.toAsciiLower (Text.trim entry)).toList with
  | [] => .nothing
  | '.' :: cs => .ending ('.' :: cs)
  | cs =>
      match cs.reverse with
      | '*' :: '/' :: rest => .family rest.reverse
      | _ => .exactly cs

/-- Whether the file is one that the entry stands for. -/
def Accept.admits (a : Asset) : Accept → Bool
  | .nothing => false
  | .ending text => text.isSuffixOf (Text.toAsciiLower a.name).toList
  | .family name =>
      a.mimeType.any fun m => (Text.toAsciiLower m).toList.takeWhile (· ≠ '/') == name
  | .exactly mimeType => a.mimeType.any fun m => (Text.toAsciiLower m).toList == mimeType

def isAcceptedBy (a : Asset) (entry : String) : Bool := (Accept.ofText entry).admits a

end Asset

end RecordGrid
