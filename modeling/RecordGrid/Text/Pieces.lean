/-!
# Pieces of a text
-/

namespace RecordGrid.Text

/-- The pieces of a text between the characters of a class. -/
def pieces (isBreak : Char → Bool) : List Char → List (List Char)
  | [] => [[]]
  | c :: cs =>
      match pieces isBreak cs with
      | [] => [[]]
      | piece :: rest => if isBreak c then [] :: piece :: rest else (c :: piece) :: rest

end RecordGrid.Text
