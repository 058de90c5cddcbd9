import RecordGrid.Keyed
import RecordGrid.Number.Binary

/-!
# JSON values

Whole numbers from `-2 ^ 63` up to `2 ^ 64` are kept exactly and every other
number is a double.  The members of an object stand as they were written;
`canonical` puts them in the order of their keys, the last one of a key
counting.
-/

namespace RecordGrid

inductive Json where
  | null
  | bool (b : Bool)
  | int (n : Int)
  | float (x : Float)
  | str (s : String)
  | arr (items : List Json)
  | obj (members : List (String × Json))
deriving Inhabited

/-- A record of a grid: values under the ids of their fields. -/
abbrev Row := List (String × Json)

namespace Json

mutual

/-- Equality of values.  Doubles are compared as numbers, so the two zeros are
equal, and a double never equals a whole number. -/
def beq : Json → Json → Bool
  | .null, .null => true
  | .bool a, .bool b => a == b
  | .int m, .int n => m == n
  | .float x, .float y => x == y
  | .str s, .str t => s == t
  | .arr as, .arr bs => beqItems as bs
  | .obj as, .obj bs => beqMembers as bs
  | _, _ => false

def beqItems : List Json → List Json → Bool
  | [], [] => true
  | a :: as, b :: bs => beq a b && beqItems as bs
  | _, _ => false

def beqMembers : List (String × Json) → List (String × Json) → Bool
  | [], [] => true
  | (k, a) :: as, (l, b) :: bs => k == l && beq a b && beqMembers as bs
  | _, _ => false

end

instance : BEq Json := ⟨beq⟩

mutual

/-- The value with the members of every object in the order of their keys. -/
def canonical : Json → Json
  | .arr items => .arr (canonicalItems items)
  | .obj members => .obj (Keyed.ofList (canonicalMembers members))
  | j => j

def canonicalItems : List Json → List Json
  | [] => []
  | j :: rest => canonical j :: canonicalItems rest

def canonicalMembers : List (String × Json) → List (String × Json)
  | [] => []
  | (k, j) :: rest => (k, canonical j) :: canonicalMembers rest

end

def asNumber? : Json → Option Float
  | .int n => some (Float.ofInt n)
  | .float x => some x
  | _ => none

def asStr? : Json → Option String
  | .str s => some s
  | _ => none

def asBool? : Json → Option Bool
  | .bool b => some b
  | _ => none

/-- A whole number from zero up to a limit. -/
def asNatBelow? (limit : Nat) : Json → Option Nat
  | .int (.ofNat n) => if n < limit then some n else none
  | _ => none

/-- Counts and indices are held in 64 bits. -/
def asCount? (j : Json) : Option Nat := j.asNatBelow? 0x10000000000000000

def asMembers? : Json → Option (List (String × Json))
  | .obj members => some members
  | _ => none

/-- A list, each item of which is read. -/
def asList? (read : Json → Option α) : Json → Option (List α)
  | .arr items => items.mapM read
  | _ => none

def get? (j : Json) (key : String) : Option Json :=
  j.asMembers?.bind fun members => Keyed.get? members key

end Json

end RecordGrid
