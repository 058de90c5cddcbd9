import RecordGrid.Ascending

/-!
# Punycode

A label of a domain that has other characters than ASCII, written in letters,
digits and hyphens: first its ASCII characters, then for every other one, in
the order of their code points, how far it is from the one before, counted over
all places where it could stand.  Readers count in 32 bits.
-/

namespace RecordGrid.Url

def punyDigit (d : Nat) : Char := Char.ofNat (if d < 26 then 97 + d else 22 + d)

/-- The value below which the digit at a place is the last one. -/
def threshold (bias place : Nat) : Nat := min 26 (max 1 (place - bias))

theorem threshold_pos (bias place : Nat) : 1 ≤ threshold bias place := by
  simp only [threshold]; omega

/-- A number in digits whose thresholds grow from place to place. -/
def punyNumber (bias place q : Nat) : List Char :=
  if q < threshold bias place then [punyDigit q]
  else
    punyDigit (threshold bias place + (q - threshold bias place) % (36 - threshold bias place)) ::
      punyNumber bias (place + 36) ((q - threshold bias place) / (36 - threshold bias place))
termination_by q
decreasing_by
  have ht := threshold_pos bias place
  have hle := Nat.div_le_self (q - threshold bias place) (36 - threshold bias place)
  omega

/-- Scales a distance down to the range in which a bias is read off. -/
def scaled (delta : Nat) : Nat × Nat :=
  if 455 < delta then let (k, d) := scaled (delta / 35); (k + 36, d) else (0, delta)
termination_by delta
decreasing_by omega

/-- The bias after a distance. -/
def adapt (delta count : Nat) (isFirst : Bool) : Nat :=
  let delta := if isFirst then delta / 700 else delta / 2
  let (k, d) := scaled (delta + delta / count)
  k + 36 * d / (d + 38)

/-! ## Writing -/

structure PunyState where
  delta : Nat := 0
  bias : Nat := 72
  written : Nat
  isFirst : Bool := true
  output : List Char

/-- Passes a character while those with code point `n` are written. -/
def punyStep (n : Nat) (s : PunyState) (c : Char) : PunyState :=
  if c.toNat < n then { s with delta := s.delta + 1 }
  else if c.toNat = n then
    { delta := 0
      bias := adapt s.delta (s.written + 1) s.isFirst
      written := s.written + 1
      isFirst := false
      output := s.output ++ punyNumber s.bias 36 s.delta }
  else s

/-- Writes the characters with code point `n`, where those below `next` are
done. -/
def punyRound (label : List Char) (state : PunyState × Nat) (n : Nat) : PunyState × Nat :=
  let (s, next) := state
  let done :=
    label.foldl (punyStep n) { s with delta := s.delta + (n - next) * (s.written + 1) }
  ({ done with delta := done.delta + 1 }, n + 1)

def punycode (label : List Char) : List Char :=
  let basic := label.filter fun c => decide (c.toNat < 128)
  let others := Ascending.ofList ((label.map Char.toNat).filter fun n => decide (128 ≤ n))
  let start : PunyState :=
    { written := basic.length, output := if basic.isEmpty then [] else basic ++ ['-'] }
  (others.foldl (punyRound label) (start, 128)).1.output

/-! ## Reading -/

def punyValue? (c : Char) : Option Nat :=
  if 'a' ≤ c ∧ c ≤ 'z' then some (c.toNat - 97)
  else if '0' ≤ c ∧ c ≤ '9' then some (c.toNat - 22)
  else none

/-- Adds the number at the start of a text to `sum`, with what follows it;
`weight` is what a digit counts at this place. -/
def readPunyNumber? (bias : Nat) :
    (place weight sum : Nat) → List Char → Option (Nat × List Char)
  | _, _, _, [] => none
  | place, weight, sum, c :: cs =>
      (punyValue? c).bind fun d =>
        let sum := sum + d * weight
        if 0x100000000 ≤ sum then none
        else if d < threshold bias place then some (sum, cs)
        else
          let weight := weight * (36 - threshold bias place)
          if 0x100000000 ≤ weight then none
          else readPunyNumber? bias (place + 36) weight sum cs

/-- Puts the characters that the numbers in a text stand for into `label`.  The
next one has at least code point `n` and, with that one, at least place `at`. -/
def readPuny? : (steps bias n place : Nat) → (label cs : List Char) → Option (List Char)
  | _, _, _, _, label, [] => some label
  | 0, _, _, _, _, _ :: _ => none
  | steps + 1, bias, n, place, label, c :: cs =>
      (readPunyNumber? bias 36 1 place (c :: cs)).bind fun (sum, rest) =>
        let count := label.length + 1
        let n := n + sum / count
        let here := sum % count
        if n.isValidChar then
          readPuny? steps (adapt (sum - place) count (place == 0)) n (here + 1)
            (label.take here ++ Char.ofNat n :: label.drop here) rest
        else none

/-- The label that a text in lower case stands for. -/
def unpunycode? (cs : List Char) : Option (List Char) :=
  let digits := (cs.reverse.takeWhile (· ≠ '-')).reverse
  let basic := cs.take (cs.length - digits.length - 1)
  if basic.isEmpty && cs.contains '-' then none
  else readPuny? cs.length 72 128 0 basic digits

end RecordGrid.Url
