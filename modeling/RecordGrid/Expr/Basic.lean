import RecordGrid.Ascending

/-!
# Expressions

An expression computes a value from the fields of one record.  There is no
other scope, and the functions it may call are a closed set.
-/

namespace RecordGrid

/-- Operators that take the values of both operands. -/
inductive BinaryOp where
  | equal
  | notEqual
  | less
  | greater
  | lessEqual
  | greaterEqual
  | add
  | subtract
  | multiply
  | divide
  | modulo
deriving DecidableEq, Repr

inductive UnaryOp where
  | negate
  | plus
  | not
deriving DecidableEq, Repr

/-- Operators that give one of their operands, the right one only if the left
one does not decide. -/
inductive LogicalOp where
  | and
  | or
deriving DecidableEq, Repr

inductive Function where
  | round
  | abs
  | min
  | max
  | choose
  | len
  | upper
  | lower
deriving DecidableEq, Repr

inductive Literal where
  | number (x : Float)
  | text (s : String)
  | boolean (b : Bool)
  | null
deriving DecidableEq

inductive Expr where
  | literal (value : Literal)
  | field (id : String)
  | binary (op : BinaryOp) (left right : Expr)
  | unary (op : UnaryOp) (operand : Expr)
  | logical (op : LogicalOp) (left right : Expr)
  | conditional (condition onTrue onFalse : Expr)
  | call (function : Function) (args : List Expr)
deriving Inhabited

namespace Function

def name : Function → String
  | .round => "ROUND"
  | .abs => "ABS"
  | .min => "MIN"
  | .max => "MAX"
  | .choose => "IF"
  | .len => "LEN"
  | .upper => "UPPER"
  | .lower => "LOWER"

def all : List Function := [.round, .abs, .min, .max, .choose, .len, .upper, .lower]

/-- The fewest arguments. -/
def minArgs : Function → Nat
  | .choose => 2
  | _ => 1

/-- The most arguments, where there is a limit. -/
def maxArgs : Function → Option Nat
  | .round => some 2
  | .choose => some 3
  | .min => none
  | .max => none
  | _ => some 1

def accepts (f : Function) (count : Nat) : Bool :=
  decide (f.minArgs ≤ count) && (f.maxArgs.all fun most => decide (count ≤ most))

end Function

namespace Expr

mutual

/-- The fields an expression mentions, from left to right. -/
def mentions : Expr → List String
  | .literal _ => []
  | .field id => [id]
  | .binary _ left right => left.mentions ++ right.mentions
  | .unary _ operand => operand.mentions
  | .logical _ left right => left.mentions ++ right.mentions
  | .conditional condition onTrue onFalse =>
      condition.mentions ++ onTrue.mentions ++ onFalse.mentions
  | .call _ args => mentionsOfArgs args

def mentionsOfArgs : List Expr → List String
  | [] => []
  | arg :: rest => arg.mentions ++ mentionsOfArgs rest

end

/-- The ids of the fields an expression reads, in ascending order. -/
def referencedFields (e : Expr) : List String := Ascending.ofList e.mentions

end Expr

end RecordGrid
