import RecordGrid.Text.Hex
import RecordGrid.Text.Pieces

/-!
# Internet addresses

A host may be an address: four bytes, written as one to four numbers between
points, or eight words of 16 bits in hexadecimal between colons, where one run
of zeros may be left out and the last two words may be written as four bytes.
-/

namespace RecordGrid.Url

open Text (numberIn? pieces)

/-- A number of an address of four bytes: hexadecimal after `0x`, octal after a
zero, else decimal. -/
def addressNumber? : List Char → Option Nat
  | [] => none
  | '0' :: 'x' :: cs => numberIn? 16 cs
  | '0' :: 'X' :: cs => numberIn? 16 cs
  | '0' :: c :: cs => numberIn? 8 (c :: cs)
  | cs => numberIn? 10 cs

/-- The numbers of an address; one point may stand at the end. -/
def addressParts (cs : List Char) : List (List Char) :=
  let parts := pieces (· == '.') cs
  if parts.getLast? = some [] ∧ 1 < parts.length then parts.dropLast else parts

/-- Whether a host can only be an address: its last part is a number. -/
def endsInNumber (cs : List Char) : Bool :=
  match (addressParts cs).getLast? with
  | some part => !part.isEmpty && (part.all Char.isDigit || (addressNumber? part).isSome)
  | none => false

/-- The address of numbers, of which the last one fills the bytes that are
left. -/
def addressOf? (numbers : List Nat) : Option Nat :=
  match numbers.getLast? with
  | none => none
  | some last =>
      let high := numbers.dropLast
      let fits := high.all fun n => decide (n < 256)
      if high.length < 4 ∧ fits ∧ last < Nat.pow 256 (4 - high.length) then
        some (high.zipIdx.foldl (fun sum m => sum + m.1 * Nat.pow 256 (3 - m.2)) last)
      else none

/-- An address of four bytes, as four decimal numbers. -/
def byteAddress? (cs : List Char) : Option (List Char) := do
  let numbers ← (addressParts cs).mapM addressNumber?
  let address ← addressOf? numbers
  some (List.intercalate ['.']
    ([3, 2, 1, 0].map fun i => Nat.toDigits 10 (address / Nat.pow 256 i % 256)))

/-- A byte in decimal, without zeros before it. -/
def decimalByte? (cs : List Char) : Option Nat :=
  if cs.isEmpty || (cs.head? == some '0' && cs.length != 1) then none
  else (numberIn? 10 cs).filter fun n => decide (n < 256)

/-- One word, or two words written as four bytes where this is the end. -/
def words? (isLast : Bool) (cs : List Char) : Option (List Nat) :=
  if isLast && cs.contains '.' then
    match (pieces (· == '.') cs).mapM decimalByte? with
    | some [a, b, c, d] => some [256 * a + b, 256 * c + d]
    | _ => none
  else if cs.isEmpty || decide (4 < cs.length) then none
  else (numberIn? 16 cs).map fun n => [n]

/-- The words of texts between colons. -/
def wordList? (endsHere : Bool) : List (List Char) → Option (List Nat)
  | [] => some []
  | cs :: rest => do
      let ws ← words? (endsHere && rest.isEmpty) cs
      let more ← wordList? endsHere rest
      some (ws ++ more)

/-- What stands before and after the first double colon. -/
def splitDouble? : List Char → Option (List Char × List Char)
  | ':' :: ':' :: cs => some ([], cs)
  | [] => none
  | c :: cs => (splitDouble? cs).map fun m => (c :: m.1, m.2)

def wordsBetween? (endsHere : Bool) (cs : List Char) : Option (List Nat) :=
  if cs.isEmpty then some [] else wordList? endsHere (pieces (· == ':') cs)

/-- The eight words of an address. -/
def addressWords? (cs : List Char) : Option (List Nat) :=
  match splitDouble? cs with
  | none => (wordsBetween? true cs).filter fun ws => ws.length == 8
  | some (before, after) => do
      let high ← wordsBetween? false before
      let low ← wordsBetween? true after
      if high.length + low.length < 8 then
        some (high ++ List.replicate (8 - high.length - low.length) 0 ++ low)
      else none

def zerosAt (ws : List Nat) : Nat := (ws.takeWhile (· == 0)).length

/-- Where the first longest run of zeros starts, and its length. -/
def longestZeros (ws : List Nat) : Nat × Nat :=
  (List.range ws.length).foldl
    (fun best i => let n := zerosAt (ws.drop i); if best.2 < n then (i, n) else best) (0, 0)

def hexWords (ws : List Nat) : List Char := List.intercalate [':'] (ws.map (Nat.toDigits 16))

/-- The address of eight words; the first longest run of two zeros or more is
left out. -/
def wordAddress (ws : List Nat) : List Char :=
  let (start, count) := longestZeros ws
  if count < 2 then hexWords ws
  else hexWords (ws.take start) ++ [':', ':'] ++ hexWords (ws.drop (start + count))

end RecordGrid.Url
