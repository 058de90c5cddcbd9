import RecordGrid.Json.Cell
import RecordGrid.Text.Case

/-!
# Scalars

What an expression computes.  A scalar can be read as a number, as a text and
as a condition, and any two scalars can be compared.
-/

namespace RecordGrid

inductive Scalar where
  | number (x : Float)
  | text (s : String)
  | boolean (b : Bool)
  | empty
deriving DecidableEq

namespace Scalar

/-- The scalar for a stored value; lists and objects count as their text. -/
def ofJson : Json → Scalar
  | .null => .empty
  | .bool b => .boolean b
  | .int n => .number (Float.ofInt n)
  | .float x => .number x
  | .str s => .text s
  | j => .text j.displayText

/-- The value that is stored for a scalar. -/
def toJson : Scalar → Json
  | .number x => .ofNumber x
  | .text s => .str s
  | .boolean b => .bool b
  | .empty => .null

def ofBool (b : Bool) : Float := if b then 1.0 else 0.0

/-- The scalar as a term of arithmetic, where blanks count as zero. -/
def asNumber? : Scalar → Option Float
  | .number x => some x
  | .boolean b => some (ofBool b)
  | .empty => some 0.0
  | .text s => if Text.allBlank s then some 0.0 else Number.ofText? s

/-- The scalar as a number to compare, where blanks are not numbers. -/
def comparable? : Scalar → Option Float
  | .number x => some x
  | .boolean b => some (ofBool b)
  | .text s => Number.ofText? s
  | .empty => none

def asText : Scalar → String
  | .number x => Number.plainText x
  | .text s => s
  | .boolean b => Json.boolText b
  | .empty => ""

def isTruthy : Scalar → Bool
  | .number x => x != 0.0 && !x.isNaN
  | .text s => !s.isEmpty
  | .boolean b => b
  | .empty => false

def isBlank : Scalar → Bool
  | .empty => true
  | .text s => s.isEmpty
  | _ => false

/-- Numbers closer than this are equal. -/
def closeness : Float := Float.ofBits 0x3CB0000000000000

/-- Equality across kinds: blanks equal blanks only, then numbers by value and
all else by text. -/
def looselyEqual (l r : Scalar) : Bool :=
  if l.isBlank || r.isBlank then l.isBlank && r.isBlank
  else
    let byValue :=
      match l.comparable?, r.comparable? with
      | some x, some y => decide ((x - y).abs < closeness)
      | _, _ => l.asText == r.asText
    match l, r with
    | .text s, .text t => s == t || byValue
    | .boolean a, .boolean b => a == b
    | _, _ => byValue

def compareNumbers (x y : Float) : Option Ordering :=
  if x < y then some .lt
  else if x == y then some .eq
  else if y < x then some .gt
  else none

def compareTexts (s t : String) : Ordering :=
  if s < t then .lt else if s = t then .eq else .gt

/-- Order across kinds: numbers by value, all else by text.  A value that is
not a number has no place in the order. -/
def order? (l r : Scalar) : Option Ordering :=
  match l.comparable?, r.comparable? with
  | some x, some y => compareNumbers x y
  | _, _ => some (compareTexts l.asText r.asText)

end Scalar

end RecordGrid
