import RecordGrid.Expr.Compiled
import RecordGrid.Schema.Column

/-!
# The expressions of columns

Formulas and visibility conditions are parsed when the columns change and not
on every evaluation.  A text that is used more than once is kept once.
-/

namespace RecordGrid

structure Expressions where
  compiled : List Compiled := []

namespace Expressions

def sourcesOf (c : Column) : List String :=
  c.formulaSource?.toList ++ c.visibilitySource?.toList

/-- The items of a list without repetitions, in the order in which they first
come. -/
def distinct [DecidableEq α] : List α → List α
  | [] => []
  | a :: rest => a :: (distinct rest).filter fun b => b ≠ a

/-- The texts of the expressions of columns, each once. -/
def sources (columns : List Column) : List String := distinct (columns.flatMap sourcesOf)

/-- The compiled form of a text, blanks around it aside. -/
def get? (e : Expressions) (source : String) : Option Compiled :=
  e.compiled.find? fun c => c.source == Text.trim source

/-- The expressions of other columns, where those that stay in use need not be
parsed again. -/
def refresh (e : Expressions) (columns : List Column) : Expressions :=
  ⟨(sources columns).map fun s => (e.get? s).getD (Compiled.ofText s)⟩

def forColumns (columns : List Column) : Expressions := refresh {} columns

/-- The compiled form of a text, parsed on the spot where it is not kept. -/
def compile (e : Expressions) (source : String) : Compiled :=
  (e.get? source).getD (Compiled.ofText source)

def formulaValue (e : Expressions) (c : Column) (row : Row) : Scalar :=
  match c.formula with
  | some source =>
      if Text.allBlank source then .empty else (e.compile source).formulaValue row
  | none => .empty

def isVisible (e : Expressions) (c : Column) (row : Row) : Bool :=
  match c.visibilitySource? with
  | some source => (e.compile source).shows row
  | none => true

end Expressions

end RecordGrid
