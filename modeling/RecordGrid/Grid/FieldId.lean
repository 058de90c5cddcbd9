import RecordGrid.Schema.Column
import RecordGrid.Text.Case

/-!
# Ids for new fields

A column that is added at run time takes its id from its label.  An id that is
taken gets the first number from 2 on that makes it free.
-/

namespace RecordGrid

/-- The text with every run of blanks as one underscore. -/
def joinBlanks : (inRun : Bool) → List Char → List Char
  | _, [] => []
  | inRun, c :: cs =>
      if Text.isBlank c then
        if inRun then joinBlanks true cs else '_' :: joinBlanks true cs
      else c :: joinBlanks false cs

/-- The id for a label: in lower case, its words joined by underscores. -/
def fieldIdFromLabel (label : String) : String :=
  String.ofList (joinBlanks false (Text.toLower (Text.trim label)).toList)

def numbered (base : String) (n : Nat) : String := base ++ "_" ++ toString n

/-- The id itself where it is free, else the first free one with a number.
There is one among as many candidates as ids are taken, and one more. -/
def uniqueFieldId (taken : List String) (base : String) : String :=
  if taken.contains base then
    (((List.range' 2 (taken.length + 1)).map (numbered base)).find? fun id =>
      !taken.contains id).getD base
  else base

end RecordGrid
