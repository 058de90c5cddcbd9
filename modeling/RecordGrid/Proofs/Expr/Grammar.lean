import RecordGrid.Expr.Parse

/-!
# The grammar of expressions

The grammar as it is documented, apart from any way of reading it.  A
derivation is a tree of the grammar; it has the tokens that it spells, the
expression that it stands for, the number of levels that it nests, and the
number of its primaries.  Chains of operators are derived to the left, and the
branches of a conditional are expressions again.
-/

namespace RecordGrid
namespace Expr

/-- The levels of binary operators, loosest first. -/
inductive Rank where
  | or
  | and
  | equality
  | relational
  | additive
  | multiplicative
deriving DecidableEq, Repr

/-- The kinds of phrases that stand for an expression. -/
inductive Phrase where
  | expression
  | conditional
  | joined (rank : Rank)
  | unary
  | primary
deriving DecidableEq, Repr

/-- The phrases that the operators of a level join. -/
def Rank.operand : Rank → Phrase
  | .or => .joined .and
  | .and => .joined .equality
  | .equality => .joined .relational
  | .relational => .joined .additive
  | .additive => .joined .multiplicative
  | .multiplicative => .unary

/-- The operators of every level, with what they make of their operands. -/
inductive Rank.Joins : Rank → Symbol → (Expr → Expr → Expr) → Prop where
  | or : Joins .or .or (.logical .or)
  | and : Joins .and .and (.logical .and)
  | equal : Joins .equality .equal (.binary .equal)
  | notEqual : Joins .equality .notEqual (.binary .notEqual)
  | less : Joins .relational .less (.binary .less)
  | greater : Joins .relational .greater (.binary .greater)
  | lessEqual : Joins .relational .lessEqual (.binary .lessEqual)
  | greaterEqual : Joins .relational .greaterEqual (.binary .greaterEqual)
  | add : Joins .additive .plus (.binary .add)
  | subtract : Joins .additive .minus (.binary .subtract)
  | multiply : Joins .multiplicative .asterisk (.binary .multiply)
  | divide : Joins .multiplicative .slash (.binary .divide)
  | modulo : Joins .multiplicative .percent (.binary .modulo)

/-- The operators before a single operand. -/
inductive Prefixes : Symbol → UnaryOp → Prop where
  | negate : Prefixes .minus .negate
  | plus : Prefixes .plus .plus
  | not : Prefixes .bang .not

/-- The tokens that are a literal by themselves. -/
inductive Spells : Token → Literal → Prop where
  | number (x : Float) : Spells (.number x) (.number x)
  | text (s : String) : Spells (.text s) (.text s)
  | boolean (b : Bool) : Spells (.boolean b) (.boolean b)
  | null : Spells .null .null

mutual

/-- The derivations of a phrase. -/
inductive Derivation : Phrase → Type where
  | expression (body : Derivation .conditional) : Derivation .expression
  | condition (only : Derivation (.joined .or)) : Derivation .conditional
  | conditional (condition : Derivation (.joined .or))
      (onTrue onFalse : Derivation .expression) : Derivation .conditional
  | operand (rank : Rank) (only : Derivation rank.operand) : Derivation (.joined rank)
  | chain (rank : Rank) (left : Derivation (.joined rank)) (s : Symbol)
      (join : Expr → Expr → Expr) (joins : rank.Joins s join)
      (right : Derivation rank.operand) : Derivation (.joined rank)
  | bare (operand : Derivation .primary) : Derivation .unary
  | prefixed (s : Symbol) (op : UnaryOp) (prefixes : Prefixes s op)
      (operand : Derivation .unary) : Derivation .unary
  | literal (token : Token) (value : Literal) (spells : Spells token value) :
      Derivation .primary
  | field (name : String) : Derivation .primary
  | group (inner : Derivation .expression) : Derivation .primary
  | call (name : String) (f : Function) (named : f.name = Text.toAsciiUpper name)
      (count : Nat) (arguments : Arguments count) (legal : f.accepts count = true) :
      Derivation .primary

/-- The derivations of the arguments of a call, by their number. -/
inductive Arguments : Nat → Type where
  | none : Arguments 0
  | some (count : Nat) (first : Derivation .expression) (rest : FurtherArguments count) :
      Arguments (count + 1)

/-- The derivations of further arguments, each behind a comma. -/
inductive FurtherArguments : Nat → Type where
  | nil : FurtherArguments 0
  | cons (count : Nat) (next : Derivation .expression) (rest : FurtherArguments count) :
      FurtherArguments (count + 1)

end

/-! ## What a derivation spells -/

mutual

/-- The tokens of a derivation, from left to right. -/
def Derivation.tokens {p : Phrase} : Derivation p → List Token
  | .expression body => body.tokens
  | .condition only => only.tokens
  | .conditional condition onTrue onFalse =>
      condition.tokens ++ .symbol .question :: (onTrue.tokens ++
        .symbol .colon :: onFalse.tokens)
  | .operand _ only => only.tokens
  | .chain _ left s _ _ right => left.tokens ++ .symbol s :: right.tokens
  | .bare operand => operand.tokens
  | .prefixed s _ _ operand => .symbol s :: operand.tokens
  | .literal token _ _ => [token]
  | .field name => [.identifier name]
  | .group inner => .symbol .leftParen :: (inner.tokens ++ [.symbol .rightParen])
  | .call name _ _ _ arguments _ =>
      .identifier name :: .symbol .leftParen :: (arguments.tokens ++ [.symbol .rightParen])

def Arguments.tokens {count : Nat} : Arguments count → List Token
  | .none => []
  | .some _ first rest => first.tokens ++ rest.tokens

def FurtherArguments.tokens {count : Nat} : FurtherArguments count → List Token
  | .nil => []
  | .cons _ next rest => .symbol .comma :: (next.tokens ++ rest.tokens)

end

/-! ## What a derivation stands for -/

mutual

/-- The expression of a derivation. -/
def Derivation.expr {p : Phrase} : Derivation p → Expr
  | .expression body => body.expr
  | .condition only => only.expr
  | .conditional condition onTrue onFalse =>
      .conditional condition.expr onTrue.expr onFalse.expr
  | .operand _ only => only.expr
  | .chain _ left _ join _ right => join left.expr right.expr
  | .bare operand => operand.expr
  | .prefixed _ op _ operand => .unary op operand.expr
  | .literal _ value _ => .literal value
  | .field name => .field name
  | .group inner => inner.expr
  | .call _ f _ _ arguments _ => .call f arguments.exprs

def Arguments.exprs {count : Nat} : Arguments count → List Expr
  | .none => []
  | .some _ first rest => first.expr :: rest.exprs

def FurtherArguments.exprs {count : Nat} : FurtherArguments count → List Expr
  | .nil => []
  | .cons _ next rest => next.expr :: rest.exprs

end

/-! ## How large a derivation is -/

mutual

/-- The levels that a derivation nests.  Every expression is a level, and so is
every operand of a prefix operator. -/
def Derivation.nesting {p : Phrase} : Derivation p → Nat
  | .expression body => body.nesting + 1
  | .condition only => only.nesting
  | .conditional condition onTrue onFalse =>
      max condition.nesting (max onTrue.nesting onFalse.nesting)
  | .operand _ only => only.nesting
  | .chain _ left _ _ _ right => max left.nesting right.nesting
  | .bare operand => operand.nesting
  | .prefixed _ _ _ operand => operand.nesting + 1
  | .literal _ _ _ => 0
  | .field _ => 0
  | .group inner => inner.nesting
  | .call _ _ _ _ arguments _ => arguments.nesting

def Arguments.nesting {count : Nat} : Arguments count → Nat
  | .none => 0
  | .some _ first rest => max first.nesting rest.nesting

def FurtherArguments.nesting {count : Nat} : FurtherArguments count → Nat
  | .nil => 0
  | .cons _ next rest => max next.nesting rest.nesting

end

mutual

/-- The primaries of a derivation, those inside parentheses and calls as well
as the ones that hold them. -/
def Derivation.primaries {p : Phrase} : Derivation p → Nat
  | .expression body => body.primaries
  | .condition only => only.primaries
  | .conditional condition onTrue onFalse =>
      condition.primaries + (onTrue.primaries + onFalse.primaries)
  | .operand _ only => only.primaries
  | .chain _ left _ _ _ right => left.primaries + right.primaries
  | .bare operand => operand.primaries
  | .prefixed _ _ _ operand => operand.primaries
  | .literal _ _ _ => 1
  | .field _ => 1
  | .group inner => inner.primaries + 1
  | .call _ _ _ _ arguments _ => arguments.primaries + 1

def Arguments.primaries {count : Nat} : Arguments count → Nat
  | .none => 0
  | .some _ first rest => first.primaries + rest.primaries

def FurtherArguments.primaries {count : Nat} : FurtherArguments count → Nat
  | .nil => 0
  | .cons _ next rest => next.primaries + rest.primaries

end

attribute [simp] Derivation.tokens Arguments.tokens FurtherArguments.tokens
attribute [simp] Derivation.expr Arguments.exprs FurtherArguments.exprs
attribute [simp] Derivation.nesting Arguments.nesting FurtherArguments.nesting
attribute [simp] Derivation.primaries Arguments.primaries FurtherArguments.primaries

end Expr
end RecordGrid
