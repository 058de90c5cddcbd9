import RecordGrid.Json.Basic

/-!
# Reading records

A record is written as an object, whose members go by their names, or as an
array, whose items go by the order in which the record declares its fields.
Members of other names are passed over.  A name may not come twice and an
array may not have more items than there are fields.
-/

namespace RecordGrid.Json

/-- The members of a record with the given fields. -/
def record? (names : List String) : Json → Option (List (String × Json))
  | .obj members =>
      if names.all fun name => decide (members.countP (fun m => m.1 == name) ≤ 1) then
        some members
      else none
  | .arr items => if items.length ≤ names.length then some (names.zip items) else none
  | _ => none

def required (members : List (String × Json)) (name : String) (read : Json → Option α) :
    Option α :=
  (members.lookup name).bind read

/-- A field with a default. -/
def defaulted (members : List (String × Json)) (name : String) (default : α)
    (read : Json → Option α) : Option α :=
  match members.lookup name with
  | none => some default
  | some j => read j

/-- A field that may be missing or null. -/
def optional (members : List (String × Json)) (name : String) (read : Json → Option α) :
    Option (Option α) :=
  match members.lookup name with
  | none => some none
  | some .null => some none
  | some j => (read j).map some

/-- A choice among words, written as the word or as an object that holds null
under it. -/
def word (words : List (String × α)) : Json → Option α
  | .str s => words.lookup s
  | .obj [(s, .null)] => words.lookup s
  | _ => none

end RecordGrid.Json
