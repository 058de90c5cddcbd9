import RecordGrid.Text.Range

/-!
# Blank characters

The characters with the Unicode property White_Space, and the texts without
them at either end.
-/

namespace RecordGrid.Text

/-- The ranges of White_Space. -/
def blankRanges : List (Nat × Nat) :=
  [
   (0x9, 0xD), (0x20, 0x20), (0x85, 0x85), (0xA0, 0xA0), (0x1680, 0x1680), (0x2000, 0x200A),
   (0x2028, 0x2029), (0x202F, 0x202F), (0x205F, 0x205F), (0x3000, 0x3000)]

def isBlank (c : Char) : Bool := inRanges blankRanges c

def trimStart (cs : List Char) : List Char := cs.dropWhile isBlank

def trimmed (cs : List Char) : List Char := (trimStart (trimStart cs).reverse).reverse

def trim (s : String) : String := String.ofList (trimmed s.toList)

def allBlank (s : String) : Bool := s.toList.all isBlank

end RecordGrid.Text
