import RecordGrid.Expr.Eval

/-!
# Compiled expressions

Expression text that has been parsed once.  A text that is no expression is
kept as such and faults on every evaluation.  A fault never leaves the place
where an expression is used: a formula without a value is empty, a condition
without a value shows the cell.
-/

namespace RecordGrid

structure Compiled where
  source : String
  parsed : Except ParseError Expr

namespace Compiled

def ofText (source : String) : Compiled := ⟨source, Expr.parse source⟩

def isValid (c : Compiled) : Bool :=
  match c.parsed with
  | .ok _ => true
  | .error _ => false

def eval (c : Compiled) (row : Row) : Outcome :=
  match c.parsed with
  | .ok e => e.eval row
  | .error e => .error (.syntaxError e)

def formulaValue (c : Compiled) (row : Row) : Scalar :=
  match c.eval row with
  | .ok v => v
  | .error _ => .empty

def shows (c : Compiled) (row : Row) : Bool :=
  match c.eval row with
  | .ok v => v.isTruthy
  | .error _ => true

end Compiled

end RecordGrid
