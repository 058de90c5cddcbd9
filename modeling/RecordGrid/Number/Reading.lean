/-!
# Reading decimal text

A decimal is a run of digits with at most one point, an optional sign before
it and an optional exponent after it; some digit has to be there.  The words
for an infinity and for no number are read in any case.  The value is the
double nearest to the written number, ties to even.
-/

namespace RecordGrid.Number

def digitsValue (ds : List Char) : Nat :=
  ds.foldl (fun n c => 10 * n + (c.toNat - '0'.toNat)) 0

/-- The double nearest to `m * 10 ^ e`. -/
def ofDecimal (m : Nat) (e : Int) : Float :=
  Float.ofScientific m (decide (e < 0)) e.natAbs

/-- Splits a sign off; the flag tells whether it is negative. -/
def splitSign : List Char → Bool × List Char
  | '+' :: cs => (false, cs)
  | '-' :: cs => (true, cs)
  | cs => (false, cs)

/-- The exponent part, which ends the text: empty, or `e` with digits. -/
def readExponent : List Char → Option Int
  | [] => some 0
  | c :: cs =>
      if c = 'e' ∨ c = 'E' then
        match splitSign cs with
        | (_, []) => none
        | (negative, ds) =>
            if ds.all Char.isDigit then
              some (if negative then -(digitsValue ds : Int) else digitsValue ds)
            else none
      else none

def readUnsigned (cs : List Char) : Option Float :=
  let whole := cs.takeWhile Char.isDigit
  let rest := cs.dropWhile Char.isDigit
  let (fraction, rest) :=
    match rest with
    | '.' :: rest => (rest.takeWhile Char.isDigit, rest.dropWhile Char.isDigit)
    | rest => ([], rest)
  if whole.isEmpty && fraction.isEmpty then none
  else
    (readExponent rest).map fun e =>
      ofDecimal (digitsValue (whole ++ fraction)) (e - fraction.length)

def read? (text : String) : Option Float :=
  let (negative, cs) := splitSign text.toList
  let word := String.ofList (cs.map Char.toLower)
  let magnitude :=
    if word = "inf" ∨ word = "infinity" then some (1.0 / 0.0)
    else if word = "nan" then some (0.0 / 0.0)
    else readUnsigned cs
  magnitude.map fun x => if negative then -x else x

end RecordGrid.Number
