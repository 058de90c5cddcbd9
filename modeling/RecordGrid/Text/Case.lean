import RecordGrid.Text.Case.Table

/-!
# Upper and lower case

The full mappings of Unicode, by which one character may become several.  A
capital sigma becomes a final one at the end of a word: after a cased letter
and not before one, where the characters that take no part in case are passed
over.
-/

namespace RecordGrid.Text

/-- The shift of a character in a run, where it belongs to it. -/
def CaseRun.shift? (run : CaseRun) (n : Nat) : Option Int :=
  if run.first ≤ n ∧ n ≤ run.last ∧ (n - run.first) % run.step = 0 then some run.shift
  else none

/-- The mapping of one character by the tables of a case. -/
def mapCase (runs : List CaseRun) (sequences : List (Nat × List Nat)) (c : Char) : List Char :=
  match sequences.lookup c.toNat with
  | some ns => ns.map Char.ofNat
  | none =>
      match runs.findSome? fun run => run.shift? c.toNat with
      | some shift => [Char.ofNat (c.toNat + shift).toNat]
      | none => [c]

def upperChar (c : Char) : List Char := mapCase upperRuns upperSequences c

def lowerChar (c : Char) : List Char := mapCase lowerRuns lowerSequences c

def toUpper (s : String) : String := String.ofList (s.toList.flatMap upperChar)

/-- Whether the first character that takes part in case is a cased letter. -/
def meetsCased (cs : List Char) : Bool :=
  match cs.dropWhile (inRanges caseIgnorableRanges) with
  | [] => false
  | c :: _ => inRanges casedRanges c

/-- The lower case of a text, `before` being what precedes it, last character
first. -/
def lowerFrom : (before : List Char) → List Char → List Char
  | _, [] => []
  | before, c :: cs =>
      (if c = 'Σ' then
        [if meetsCased before && !meetsCased cs then 'ς' else 'σ']
      else lowerChar c) ++ lowerFrom (c :: before) cs

def toLower (s : String) : String := String.ofList (lowerFrom [] s.toList)

/-- The text with the letters `A` to `Z` in lower case and all else kept. -/
def toAsciiLower (s : String) : String := String.ofList (s.toList.map Char.toLower)

/-- The text with the letters `a` to `z` in upper case and all else kept. -/
def toAsciiUpper (s : String) : String := String.ofList (s.toList.map Char.toUpper)

end RecordGrid.Text
