/-!
# Counts

Counts of records and positions in lists have 64 bits.  A sum that they do not hold,
a difference below zero and a quotient by zero are faults, as the use of a position
is that a list does not have.  A fault ends whatever has met it.
-/

namespace RecordGrid

inductive IndexFault where
  | outOfRange (index length : Nat)
  | overflow (augend addend : Nat)
  | belowZero (minuend subtrahend : Nat)
  | divisionByZero
deriving DecidableEq, Repr

namespace Count

def plus (n k : Nat) : Except IndexFault Nat :=
  if n + k < 0x10000000000000000 then .ok (n + k) else .error (.overflow n k)

def minus (n k : Nat) : Except IndexFault Nat :=
  if k ≤ n then .ok (n - k) else .error (.belowZero n k)

def quotient (n k : Nat) : Except IndexFault Nat :=
  if k = 0 then .error .divisionByZero else .ok (n / k)

end Count

end RecordGrid
