import RecordGrid.Text.Hex
import RecordGrid.Text.Pieces

/-!
# Tables of characters

A long table is written as text, one word for a run of code points, all numbers
in hexadecimal.

* `41-5A` is the run itself, from the first code point to the last; `AD` is a
  run of one.
* `41-5A+61` maps the run one by one to the code points from `61` on.
* `100-12E*101` does so for every second code point of the run.
* `132-133=69.6A` maps the whole run to one sequence, which may be empty.
-/

namespace RecordGrid.Text

/-- How the code points of a run are mapped. -/
inductive RunRule where
  | same
  | oneByOne
  | everySecond
deriving DecidableEq, Repr

/-- A run of code points, with what they are mapped to. -/
structure CodeRun where
  first : Nat
  last : Nat
  rule : RunRule
  target : List Nat
deriving Repr

namespace CodeRun

def contains (run : CodeRun) (n : Nat) : Bool :=
  decide (run.first ≤ n) && decide (n ≤ run.last)

def map? (run : CodeRun) (n : Nat) : Option (List Nat) :=
  if run.contains n then
    match run.rule with
    | .same => some run.target
    | .oneByOne => some (run.target.map fun t => t + (n - run.first))
    | .everySecond =>
        if (n - run.first) % 2 = 0 then some (run.target.map fun t => t + (n - run.first))
        else none
  else none

def ruleOf (sign : Char) : RunRule :=
  if sign = '+' then .oneByOne else if sign = '*' then .everySecond else .same

/-- The numbers of a word between the characters of a class. -/
def numbers (isBreak : Char → Bool) (cs : List Char) : List Nat :=
  (pieces isBreak cs).filterMap fun ds => if ds.isEmpty then none else numberIn? 16 ds

/-- The run that a word stands for. -/
def ofWord (word : List Char) : CodeRun :=
  let isSource (c : Char) : Bool := c == '-' || (hexValue? c).isSome
  let bounds := numbers (· == '-') (word.takeWhile isSource)
  let rule := word.dropWhile isSource
  { first := bounds.headD 0
    last := bounds.getLastD 0
    rule := ruleOf (rule.headD '=')
    target := numbers (· == '.') (rule.drop 1) }

end CodeRun

def readTable (lines : List String) : List CodeRun :=
  lines.flatMap fun line => (pieces (· == ' ') line.toList).map CodeRun.ofWord

def inTable (table : List CodeRun) (c : Char) : Bool := table.any fun run => run.contains c.toNat

def mapIn? (table : List CodeRun) (c : Char) : Option (List Char) :=
  (table.findSome? fun run => run.map? c.toNat).map fun ns => ns.map Char.ofNat

end RecordGrid.Text
