import RecordGrid.Field.Behavior
import RecordGrid.Text.Case
import RecordGrid.Text.Escaped

/-!
# Field types

The behavior behind every type tag of a column.  Tags are found whatever the
case of their letters `A` to `Z` and the blanks around them; a tag that is not
known has the behavior that shows its value and takes no edits.  Any tag may be
given any of the behaviors of the grid; one that a host has written itself cannot
be registered here.
-/

namespace RecordGrid

structure Registry where
  behaviors : List (String × Behavior) := []

namespace Registry

/-- The tag as it is kept. -/
def tagKey (tag : String) : String := Text.toAsciiLower (Text.trim tag)

def empty : Registry := {}

/-- Adds the behavior for a tag, or puts it in the place of the one there. -/
def register (r : Registry) (tag : String) (b : Behavior) : Registry :=
  ⟨Keyed.insert (tagKey tag) b r.behaviors⟩

def isRegistered (r : Registry) (tag : String) : Bool :=
  (Keyed.get? r.behaviors (tagKey tag)).isSome

def resolve (r : Registry) (tag : String) : Behavior :=
  (Keyed.get? r.behaviors (tagKey tag)).getD .unknown

def tags (r : Registry) : List String := r.behaviors.map (·.1)

/-- The tags on one line, as a diagnostic shows them. -/
def summary (r : Registry) : String :=
  "FieldTypeRegistry \x7b tags: [" ++ ", ".intercalate (r.tags.map Text.escaped) ++ "] \x7d"

def builtin : Registry :=
  ((((((((empty.register "text" .text).register "number" .number).register "boolean" .boolean
    ).register "enum" (.choice .column)).register "lookup" (.choice .supplied)
    ).register "formula" .formula).register "image" .asset).register "file" .asset
    ).register "signature" .signature

end Registry

end RecordGrid
