import RecordGrid.Expr.Parse
import RecordGrid.Expr.Scalar

/-!
# Evaluation

The value of an expression over one record, or the fault that kept it from
having one.  Both operands of a binary operator are evaluated and the fault of
the left one comes first; the operands of `&&` and `||` and the branches of a
conditional are evaluated only when they are needed.
-/

namespace RecordGrid

inductive Fault where
  /-- The text is not an expression. -/
  | syntaxError (e : ParseError)
  /-- The record has no value under the id of a field. -/
  | unknownField (id : String)
  | divideByZero
  /-- An operand is not a number. -/
  | notANumber
deriving DecidableEq

abbrev Outcome := Except Fault Scalar

namespace Scalar

/-- Numbers are added and all else is joined as text. -/
def add (l r : Scalar) : Scalar :=
  match l.asNumber?, r.asNumber? with
  | some x, some y => .number (x + y)
  | _, _ => .text (l.asText ++ r.asText)

def arithmetic (op : Float → Float → Except Fault Float) (l r : Scalar) : Outcome :=
  match l.asNumber?, r.asNumber? with
  | some x, some y => (op x y).map .number
  | _, _ => .error .notANumber

/-- A division, which faults where the divisor is zero. -/
def dividing (op : Float → Float → Float) (x y : Float) : Except Fault Float :=
  if y != 0.0 then .ok (op x y) else .error .divideByZero

def compared (test : Ordering → Bool) (l r : Scalar) : Scalar :=
  .boolean ((l.order? r).any test)

end Scalar

def BinaryOp.apply : BinaryOp → Scalar → Scalar → Outcome
  | .add, l, r => .ok (l.add r)
  | .subtract, l, r => Scalar.arithmetic (fun x y => .ok (x - y)) l r
  | .multiply, l, r => Scalar.arithmetic (fun x y => .ok (x * y)) l r
  | .divide, l, r => Scalar.arithmetic (Scalar.dividing (· / ·)) l r
  | .modulo, l, r => Scalar.arithmetic (Scalar.dividing Number.remainder) l r
  | .equal, l, r => .ok (.boolean (l.looselyEqual r))
  | .notEqual, l, r => .ok (.boolean (!l.looselyEqual r))
  | .less, l, r => .ok (Scalar.compared Ordering.isLT l r)
  | .greater, l, r => .ok (Scalar.compared Ordering.isGT l r)
  | .lessEqual, l, r => .ok (Scalar.compared Ordering.isLE l r)
  | .greaterEqual, l, r => .ok (Scalar.compared Ordering.isGE l r)

def Outcome.number (o : Outcome) : Except Fault Float :=
  match o with
  | .error fault => .error fault
  | .ok v =>
      match v.asNumber? with
      | some x => .ok x
      | none => .error .notANumber

def UnaryOp.apply (op : UnaryOp) (v : Scalar) : Outcome :=
  match op with
  | .negate => (Outcome.number (.ok v)).map fun x => .number (-x)
  | .plus => (Outcome.number (.ok v)).map .number
  | .not => .ok (.boolean (!v.isTruthy))

/-- Whether the left operand of a logical operator is its value. -/
def LogicalOp.decidedBy : LogicalOp → Scalar → Bool
  | .and, v => !v.isTruthy
  | .or, v => v.isTruthy

namespace Function

/-- Rounding to a number of decimal places, a half away from zero. -/
def rounded (x : Float) (places : Int) : Float :=
  let unit := Number.power 10.0 places
  Number.roundHalfAway (x * unit) / unit

/-- The number of decimal places that a double asks for. -/
def places (x : Float) : Int := Number.toIntWithin (-0x80000000) 0x7FFFFFFF x

/-- The smaller of two numbers, and the second of two zeros; what is not a number
gives way. -/
def smaller (x y : Float) : Float := if y.isNaN || x < y then x else y

/-- The larger of two numbers, and the second of two zeros; what is not a number
gives way. -/
def larger (x y : Float) : Float := if y.isNaN || y < x then x else y

/-- Folds the numbers of several outcomes; the first fault counts. -/
def foldNumbers (f : Float → Float → Float) (first : Outcome) (rest : List Outcome) : Outcome :=
  match Outcome.number first with
  | .error fault => .error fault
  | .ok x =>
      (rest.foldlM (fun acc o => (Outcome.number o).map (f acc)) x).map .number

def apply (f : Function) (args : List Outcome) : Outcome :=
  match f, args with
  | .choose, [condition, onTrue] =>
      condition.bind fun v => if v.isTruthy then onTrue else .ok .empty
  | .choose, [condition, onTrue, onFalse] =>
      condition.bind fun v => if v.isTruthy then onTrue else onFalse
  | .round, [arg] => (Outcome.number arg).map fun x => .number (rounded x 0)
  | .round, [arg, digits] =>
      (Outcome.number arg).bind fun x =>
        (Outcome.number digits).map fun d => .number (rounded x (places d))
  | .abs, [arg] => (Outcome.number arg).map fun x => .number x.abs
  | .min, first :: rest => foldNumbers smaller first rest
  | .max, first :: rest => foldNumbers larger first rest
  | .len, [arg] => arg.map fun v => .number (Float.ofInt v.asText.length)
  | .upper, [arg] => arg.map fun v => .text (Text.toUpper v.asText)
  | .lower, [arg] => arg.map fun v => .text (Text.toLower v.asText)
  | _, _ => .error .notANumber

end Function

namespace Expr

def Literal.scalar : Literal → Scalar
  | .number x => .number x
  | .text s => .text s
  | .boolean b => .boolean b
  | .null => .empty

mutual

def eval (row : Row) : Expr → Outcome
  | .literal value => .ok (Literal.scalar value)
  | .field id =>
      match Keyed.get? row id with
      | some value => .ok (Scalar.ofJson value)
      | none => .error (.unknownField id)
  | .binary op left right =>
      match eval row left, eval row right with
      | .error fault, _ => .error fault
      | .ok _, .error fault => .error fault
      | .ok l, .ok r => op.apply l r
  | .unary op operand => (eval row operand).bind op.apply
  | .logical op left right =>
      (eval row left).bind fun l => if op.decidedBy l then .ok l else eval row right
  | .conditional condition onTrue onFalse =>
      (eval row condition).bind fun c =>
        if c.isTruthy then eval row onTrue else eval row onFalse
  | .call f args => f.apply (evalArgs row args)

def evalArgs (row : Row) : List Expr → List Outcome
  | [] => []
  | arg :: rest => eval row arg :: evalArgs row rest

end

end Expr

end RecordGrid
