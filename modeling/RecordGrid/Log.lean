import RecordGrid.Text.Blank
import RecordGrid.Text.Case

/-!
# The log

Every entry is a line `number|level|category|message`.  Lines may reach the
file out of order; sorting puts them in the order of their numbers.
-/

namespace RecordGrid

inductive LogLevel where
  | error
  | warn
  | info
  | debug
  | trace
deriving DecidableEq, Repr

def LogLevel.code : LogLevel → String
  | .error => "E"
  | .warn => "W"
  | .info => "I"
  | .debug => "D"
  | .trace => "D"

structure Log where
  /-- How many numbers have been given out. -/
  issued : Nat := 0
  /-- What the file holds, where one is open. -/
  file : Option String := some ""

inductive LogError where
  | notOpen
deriving DecidableEq, Repr

def LogError.message : LogError → String
  | .notOpen => "Log file not initialized"

namespace Log

/-- Writes a text and ends the line. -/
def writeRaw (message : String) (l : Log) : Log :=
  { l with file := l.file.map fun content => content ++ message ++ "\n" }

def entry (number : Nat) (level category message : String) : String :=
  toString number ++ "|" ++ level ++ "|" ++ category ++ "|" ++ message

def write (level category message : String) (l : Log) : Log :=
  writeRaw (entry (l.issued + 1) level category message) { l with issued := l.issued + 1 }

/-- The message of an event at a function; details are left out when empty. -/
def eventMessage (event name details : String) : String :=
  if details.isEmpty then event ++ " " ++ name else event ++ " " ++ name ++ " " ++ details

def enter (level category name details : String) (l : Log) : Log :=
  l.write level category (eventMessage "ENTER" name details)

def exit (level category name details : String) (l : Log) : Log :=
  l.write level category (eventMessage "EXIT" name details)

/-- What comes after the last double colon, last character first. -/
def lastPart : (reversed : List Char) → List Char
  | ':' :: ':' :: _ => []
  | [] => []
  | c :: cs => c :: lastPart cs

/-- The category for the path of a module: its last part, in upper case. -/
def categoryOf (path : String) : String :=
  Text.toUpper (String.ofList (lastPart path.toList.reverse).reverse)

/-- Takes over a record of another module; traces are dropped. -/
def relay (level : LogLevel) (path message : String) (l : Log) : Log :=
  if level = .trace then l else l.write level.code (categoryOf path) message

/-! ## Lines -/

/-- The lines of a text, `line` being what has been read of the first, last
character first.  A carriage return right before the end of a line belongs to
that end. -/
def linesFrom : (line : List Char) → List Char → List (List Char)
  | [], [] => []
  | line, [] => [line.reverse]
  | '\r' :: line, '\n' :: cs => line.reverse :: linesFrom [] cs
  | line, '\n' :: cs => line.reverse :: linesFrom [] cs
  | line, c :: cs => linesFrom (c :: line) cs

def linesOf (content : String) : List String :=
  (linesFrom [] content.toList).map String.ofList

/-- The number that digits write, a plus sign before them aside. -/
def numberOf? (cs : List Char) : Option Nat :=
  let ds := match cs with
    | '+' :: ds => ds
    | ds => ds
  if ds.isEmpty || !ds.all Char.isDigit then none
  else some (ds.foldl (fun n c => n * 10 + (c.toNat - '0'.toNat)) 0)

/-- The greatest number of an entry. -/
def greatest : Nat := 0xFFFFFFFFFFFFFFFF

/-- The number before the first bar.  A line without one comes last. -/
def keyOf (line : String) : Nat :=
  match numberOf? (line.toList.takeWhile (· ≠ '|')) with
  | some n => if n ≤ greatest then n else greatest
  | none => greatest

/-- The lines that are not blank, in the order of their numbers; those of one
number stay in order. -/
def sortedLines (content : String) : List String :=
  ((linesOf content).filter fun line => !Text.allBlank line).mergeSort fun a b =>
    decide (keyOf a ≤ keyOf b)

/-- Sorts the file, and tells the number of lines. -/
def sort (l : Log) : Except LogError (Nat × Log) :=
  match l.file with
  | none => .error .notOpen
  | some content =>
      let lines := sortedLines content
      .ok (lines.length, { l with file := some (String.join (lines.map (· ++ "\n"))) })

end Log

end RecordGrid
